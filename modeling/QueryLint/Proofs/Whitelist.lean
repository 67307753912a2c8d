import QueryLint.Proofs.OrderedMap
import QueryLint.Proofs.Policies

/-!
# Whitelists made of entries

What a whitelist says about a table is told here by its entries: a key is listed if some entry has
it, and the checkers beside it are those of all its entries (`find?_ofEntries`), in whatever order
the entries stand.

A key without checkers suppresses all of them, so an entry that names some takes away from what an
entry of the same key without any says. Entries of two lists add up apart from this
(`isWhitelisted_parse_append`, `suppression_lost_by_more_entries`).
-/

namespace QueryLint

/-! ### Lists without repetition -/

namespace Distinct

/-- Items that are inserted are added to those that are there. -/
theorem mem_foldl_insert_iff {more items : List String} {item : String} :
    item ∈ more.foldl insert items ↔ item ∈ items ∨ item ∈ more := by
  induction more generalizing items with
  | nil => simp
  | cons first rest ih =>
    rw [List.foldl_cons, ih, insert_eq_addKey, OrderedMap.mem_addKey_iff, List.mem_cons, or_assoc]

end Distinct

namespace Whitelist

open Policy (Names Covers)

variable {entries more : List (String × List String)} {key table checker : String}

/-! ### Entries -/

/-- The whitelist of some tables with checkers, in which those of one table add up. -/
def ofEntries (entries : List (String × List String)) : Whitelist :=
  entries.foldl (fun w e => w.add e.1 e.2) .empty

/-- The entry that a text is read as, if it is accepted. -/
def entryOf? (text : String) : Option (String × List String) :=
  (parseEntry text).toOption

/-- The checkers that the entries of a key name, one after the other. -/
def namesFor (entries : List (String × List String)) (key : String) : List String :=
  (entries.filter fun e => e.1 == key).flatMap Prod.snd

/-- Texts give a whitelist if each of them is accepted. -/
theorem parse_eq_ok_iff {texts : List String} {w : Whitelist} :
    parse texts = .ok w
      ↔ (∀ text ∈ texts, (entryOf? text).isSome) ∧ ofEntries (texts.filterMap entryOf?) = w := by
  have hfold : ∀ start : Whitelist, texts.foldlM addEntry start = .ok w
      ↔ (∀ text ∈ texts, (entryOf? text).isSome)
        ∧ (texts.filterMap entryOf?).foldl (fun w e => w.add e.1 e.2) start = w := by
    induction texts with
    | nil =>
      intro start
      simp [pure, Except.pure]
    | cons text rest ih =>
      intro start
      rw [List.foldlM_cons, List.forall_mem_cons]
      cases h : parseEntry text with
      | error e =>
        have hnone : entryOf? text = none := by rw [entryOf?, h]; rfl
        have hadd : addEntry start text = .error e := by rw [addEntry, h]; rfl
        rw [hadd, hnone]
        simp [bind, Except.bind]
      | ok entry =>
        have hsome : entryOf? text = some entry := by rw [entryOf?, h]; rfl
        have hadd : addEntry start text = .ok (start.add entry.1 entry.2) := by
          rw [addEntry, h]; rfl
        rw [hadd, List.filterMap_cons, hsome]
        refine Iff.trans (ih (start.add entry.1 entry.2)) ?_
        simp
  exact hfold .empty

/-- Entries are added one after the other. -/
theorem ofEntries_concat (entries : List (String × List String)) (e : String × List String) :
    ofEntries (entries ++ [e]) = (ofEntries entries).add e.1 e.2 := by
  rw [ofEntries, List.foldl_append]
  rfl

/-- The names for a key are those of all its entries. -/
theorem namesFor_append : namesFor (entries ++ more) key = namesFor entries key
    ++ namesFor more key := by
  rw [namesFor, List.filter_append, List.flatMap_append]
  rfl

/-- The checkers beside a key are those that its entries name. -/
theorem find?_ofEntries (entries : List (String × List String)) (key : String) :
    (ofEntries entries).find? key
      = if key ∈ entries.map Prod.fst then some (Distinct.ofList (namesFor entries key))
        else none := by
  induction entries using List.reverseRecOn with
  | nil => rfl
  | append_singleton entries e ih =>
    rw [ofEntries_concat, add, OrderedMap.find?_alter, namesFor_append, Distinct.ofList,
      List.foldl_append]
    by_cases hkey : key = e.1
    · subst hkey
      have hlast : namesFor [e] e.1 = e.2 := by simp [namesFor]
      have hbefore : ((ofEntries entries).find? e.1).getD []
          = Distinct.ofList (namesFor entries e.1) := by
        rw [ih]
        split
        · rfl
        · next h =>
          have hnone : entries.filter (fun d => d.1 == e.1) = [] := by
            rw [List.filter_eq_nil_iff]
            intro d hd hkey
            exact h (List.mem_map.mpr ⟨d, hd, eq_of_beq hkey⟩)
          rw [namesFor, hnone]
          rfl
      rw [if_pos (beq_self_eq_true _), hbefore, hlast, if_pos (by simp)]
      rfl
    · have hlast : namesFor [e] key = [] := by simp [namesFor, Ne.symm hkey]
      have hkeys : key ∈ (entries ++ [e]).map Prod.fst ↔ key ∈ entries.map Prod.fst := by
        simp [hkey]
      rw [if_neg (by simpa using hkey), ih, hlast]
      simp only [hkeys]
      rfl

/-- No key is twice in a whitelist. -/
theorem nodup_keys_ofEntries (entries : List (String × List String)) :
    (ofEntries entries).keys.Nodup := by
  induction entries using List.reverseRecOn with
  | nil => exact List.nodup_nil
  | append_singleton entries e ih =>
    rw [ofEntries_concat, add, OrderedMap.keys_alter]
    split
    · exact ih
    · next h =>
      have hne : ∀ key ∈ (ofEntries entries).keys, key ≠ e.1 := fun key hkey heq => h (heq ▸ hkey)
      refine List.nodup_append.mpr
        ⟨ih, List.pairwise_singleton _ e.1, fun key hkey last hlast => ?_⟩
      rw [List.mem_singleton.mp hlast]
      exact hne key hkey

/-! ### What is suppressed -/

/-- Which checkers there are is all that matters, not their order or number. -/
theorem covers_congr {names names' : List String} (h : ∀ name, name ∈ names ↔ name ∈ names') :
    Covers names checker ↔ Covers names' checker := by
  have hempty : names = [] ↔ names' = [] := by
    rw [List.eq_nil_iff_forall_not_mem, List.eq_nil_iff_forall_not_mem]
    simp only [h]
  simp only [Covers, hempty, h]

/-- Names keep covering a checker when others are added, unless there were none before. -/
theorem covers_append_of_left {names added : List String} (h : Covers names checker)
    (hempty : names = [] → added = []) : Covers (names ++ added) checker := by
  rcases h with rfl | ⟨name, hname, hcovers⟩
  · exact .inl (hempty rfl)
  · exact .inr ⟨name, List.mem_append_left added hname, hcovers⟩

/-- Which names come first does not matter to what they cover. -/
theorem covers_append_comm {names added : List String} :
    Covers (names ++ added) checker ↔ Covers (added ++ names) checker :=
  covers_congr fun _ => by rw [List.mem_append, List.mem_append, or_comm]

/-- What names cover together some of them cover. -/
theorem covers_or_of_append {names added : List String} (h : Covers (names ++ added) checker) :
    Covers names checker ∨ Covers added checker := by
  rcases h with hempty | ⟨name, hname, hcovers⟩
  · exact .inl (.inl (List.append_eq_nil_iff.mp hempty).1)
  · exact (List.mem_append.mp hname).imp (fun h => .inr ⟨name, h, hcovers⟩) fun h =>
      .inr ⟨name, h, hcovers⟩

/-- Repetitions do not matter to what names cover. -/
theorem covers_ofList_iff {names : List String} : Covers (Distinct.ofList names) checker
    ↔ Covers names checker :=
  covers_congr fun name => by rw [Distinct.ofList, Distinct.mem_foldl_insert_iff]; simp

/-- A table is whitelisted exactly when a key names it whose names cover the checker. -/
theorem isWhitelisted_setWhitelist_iff {p : Policy} {w : Whitelist} (hw : w.keys.Nodup) :
    (p.setWhitelist w).isWhitelisted table checker = true
      ↔ ∃ key names, w.find? key = some names ∧ Names key table ∧ Covers names checker := by
  rw [Policy.isWhitelisted, List.any_eq_true]
  simp only [Bool.and_eq_true, Policy.isAbout_iff, Policy.covers_iff]
  constructor
  · rintro ⟨e, he, hnames, hcovers⟩
    exact ⟨e.1, e.2, (OrderedMap.find?_eq_some_iff hw).mpr he, hnames, hcovers⟩
  · rintro ⟨key, names, hfind, hnames, hcovers⟩
    exact ⟨(key, names), (OrderedMap.find?_eq_some_iff hw).mp hfind, hnames, hcovers⟩

/-- Some key that the entries list for a table has checkers that cover one. -/
theorem isWhitelisted_ofEntries_iff {p : Policy} :
    (p.setWhitelist (ofEntries entries)).isWhitelisted table checker = true
      ↔ ∃ key ∈ entries.map Prod.fst, Names key table ∧ Covers (namesFor entries key) checker := by
  rw [isWhitelisted_setWhitelist_iff (nodup_keys_ofEntries entries)]
  constructor
  · rintro ⟨key, names, hfind, hnames, hcovers⟩
    rw [find?_ofEntries] at hfind
    split at hfind
    · next hkey =>
      cases hfind
      exact ⟨key, hkey, hnames, covers_ofList_iff.mp hcovers⟩
    · cases hfind
  · rintro ⟨key, hkey, hnames, hcovers⟩
    exact ⟨key, _, by rw [find?_ofEntries, if_pos hkey], hnames, covers_ofList_iff.mpr hcovers⟩

/-- The order of entries makes no difference. -/
theorem isWhitelisted_ofEntries_perm {p : Policy} (h : entries.Perm more) :
    (p.setWhitelist (ofEntries entries)).isWhitelisted table checker = true
      ↔ (p.setWhitelist (ofEntries more)).isWhitelisted table checker = true := by
  rw [isWhitelisted_ofEntries_iff, isWhitelisted_ofEntries_iff]
  have hkeys : ∀ key, key ∈ entries.map Prod.fst ↔ key ∈ more.map Prod.fst := fun key =>
    (h.map Prod.fst).mem_iff
  have hnames : ∀ key name, name ∈ namesFor entries key ↔ name ∈ namesFor more key :=
    fun key name =>
    ((h.filter _).flatMap_right _).mem_iff
  simp only [hkeys, covers_congr (hnames _)]

/-- The checkers that the entries name beside a key, none if they do not list it. -/
theorem mem_getD_find?_ofEntries {name : String} :
    name ∈ ((ofEntries entries).find? key).getD [] ↔ name ∈ namesFor entries key := by
  rw [find?_ofEntries]
  split
  · rw [Option.getD_some, Distinct.ofList, Distinct.mem_foldl_insert_iff]
    simp
  · next h =>
    have hnone : name ∉ namesFor entries key := fun hname => by
      obtain ⟨e, he, -⟩ := List.mem_flatMap.mp hname
      obtain ⟨he, hkey⟩ := List.mem_filter.mp he
      exact h (List.mem_map.mpr ⟨e, he, eq_of_beq hkey⟩)
    simp [hnone]

/-- A key is known exactly when an entry has it. -/
theorem isSome_find?_ofEntries : ((ofEntries entries).find? key).isSome
    ↔ key ∈ entries.map Prod.fst := by
  rw [find?_ofEntries]
  split <;> simp_all

/-- A key of two lists of entries covers a checker with what stands beside it in both. -/
theorem isWhitelisted_ofEntries_append_iff {p : Policy} :
    (p.setWhitelist (ofEntries (entries ++ more))).isWhitelisted table checker = true
      ↔ ∃ key, Names key table
        ∧ (((ofEntries entries).find? key).isSome ∨ ((ofEntries more).find? key).isSome)
        ∧ Covers (((ofEntries entries).find? key).getD [] ++ ((ofEntries more).find? key).getD [])
          checker := by
  rw [isWhitelisted_ofEntries_iff]
  refine exists_congr fun key => ?_
  have hcovers : Covers (namesFor (entries ++ more) key) checker
      ↔ Covers (((ofEntries entries).find? key).getD [] ++ ((ofEntries more).find? key).getD [])
        checker :=
    covers_congr fun name => by
      rw [namesFor_append, List.mem_append, List.mem_append, mem_getD_find?_ofEntries,
        mem_getD_find?_ofEntries]
  rw [hcovers, isSome_find?_ofEntries, isSome_find?_ofEntries, List.map_append, List.mem_append]
  exact and_left_comm

/-- The entries of two lists add up: if both are accepted, so is one list behind the other, and it
suppresses a checker for a table exactly if it is covered by what both together name beside some
key. So nothing is suppressed that neither of them suppresses, and all that one of them suppresses
is, unless a key for the table stands without checkers in one and with checkers in the other. The
order of the entries makes no difference. -/
theorem isWhitelisted_parse_append {a b : List String} {wa wb : Whitelist} (ha : parse a = .ok wa)
    (hb : parse b = .ok wb) :
    ∃ w, parse (a ++ b) = .ok w ∧ ∀ (p : Policy) (table checker : String),
      let suppresses (v : Whitelist) : Prop := (p.setWhitelist v).isWhitelisted table checker = true
      (suppresses w ↔ ∃ key, Names key table ∧ ((wa.find? key).isSome ∨ (wb.find? key).isSome)
          ∧ Covers ((wa.find? key).getD [] ++ (wb.find? key).getD []) checker)
        ∧ (suppresses w → suppresses wa ∨ suppresses wb)
        ∧ ((∀ key na nb, Names key table → wa.find? key = some na → wb.find? key = some nb →
            (na = [] ↔ nb = [])) → (suppresses w ↔ suppresses wa ∨ suppresses wb))
        ∧ ∀ c : List String, c.Perm (a ++ b) →
          ∃ v, parse c = .ok v ∧ (suppresses v ↔ suppresses w) := by
  obtain ⟨hread, rfl⟩ := parse_eq_ok_iff.mp ha
  obtain ⟨hread', rfl⟩ := parse_eq_ok_iff.mp hb
  set entries := a.filterMap entryOf?
  set more := b.filterMap entryOf?
  have hboth : ∀ text ∈ a ++ b, (entryOf? text).isSome := List.forall_mem_append.mpr ⟨hread, hread'⟩
  have hparse : parse (a ++ b) = .ok (ofEntries (entries ++ more)) :=
    parse_eq_ok_iff.mpr ⟨hboth, by rw [List.filterMap_append]⟩
  refine ⟨_, hparse, fun p table checker => ?_⟩
  intro suppresses
  have hsuppresses {es : List (String × List String)} : suppresses (ofEntries es) ↔ _ :=
    isWhitelisted_setWhitelist_iff (nodup_keys_ofEntries es)
  have hsum : suppresses (ofEntries (entries ++ more)) ↔ _ := isWhitelisted_ofEntries_append_iff
  have honly : suppresses (ofEntries (entries ++ more)) →
      suppresses (ofEntries entries) ∨ suppresses (ofEntries more) := by
    intro h
    obtain ⟨key, hnames, hlisted, hcovers⟩ := hsum.mp h
    -- A key of one argument alone has its names there; the names of a key of both are joined.
    cases hfind : (ofEntries entries).find? key with
    | none =>
      obtain ⟨added, hadded⟩ := Option.isSome_iff_exists.mp (hlisted.resolve_left (by simp [hfind]))
      rw [hfind, hadded] at hcovers
      exact .inr (hsuppresses.mpr ⟨key, added, hadded, hnames, hcovers⟩)
    | some names =>
      cases hfind' : (ofEntries more).find? key with
      | none =>
        rw [hfind, hfind', Option.getD_some, Option.getD_none, List.append_nil] at hcovers
        exact .inl (hsuppresses.mpr ⟨key, names, hfind, hnames, hcovers⟩)
      | some added =>
        rw [hfind, hfind'] at hcovers
        exact (covers_or_of_append hcovers).imp
          (fun hc => hsuppresses.mpr ⟨key, names, hfind, hnames, hc⟩)
          fun hc => hsuppresses.mpr ⟨key, added, hfind', hnames, hc⟩
  refine ⟨hsum, honly, fun hclash => ⟨honly, ?_⟩, fun c hc => ?_⟩
  -- Names that stand for all checkers must not be joined with others, or they would cover less.
  · rintro (h | h) <;> obtain ⟨key, names, hfind, hnames, hcovers⟩ := hsuppresses.mp h
    · refine hsum.mpr ⟨key, hnames, .inl (by simp [hfind]), ?_⟩
      rw [hfind]
      refine covers_append_of_left hcovers fun hempty => ?_
      cases hfind' : (ofEntries more).find? key with
      | none => rfl
      | some added => exact (hclash key names added hnames hfind hfind').mp hempty
    · refine hsum.mpr ⟨key, hnames, .inr (by simp [hfind]), ?_⟩
      rw [hfind, covers_append_comm]
      refine covers_append_of_left hcovers fun hempty => ?_
      cases hfind' : (ofEntries entries).find? key with
      | none => rfl
      | some added => exact (hclash key added names hnames hfind' hfind).mpr hempty
  · have hread : ∀ text ∈ c, (entryOf? text).isSome :=
      fun text htext => hboth text (hc.mem_iff.mp htext)
    have hperm : (c.filterMap entryOf?).Perm (entries ++ more) := by
      rw [← List.filterMap_append]
      exact hc.filterMap entryOf?
    exact ⟨_, parse_eq_ok_iff.mpr ⟨hread, rfl⟩, isWhitelisted_ofEntries_perm hperm⟩

/-- Both lists suppress all checkers for one table. The keys for another one differ in letter case,
so they stay apart, and what one of them names does not take away from the other. -/
theorem isWhitelisted_parse_append_of_two :
    let a := ["users=fuzzy_match", "logs="]
    let b := ["logs=", "Users = OR_CONDITION , *"]
    ∃ w, parse (a ++ b) = .ok w
      ∧ (Policy.default.setWhitelist w).isWhitelisted "main.USERS" "bit_operation" = true
      ∧ ¬(Policy.default.setWhitelist w).isWhitelisted "orders" "fuzzy_match" = true := by
  intro a b
  let wa : Whitelist := ⟨[("users", ["fuzzy_match"]), ("logs", [])]⟩
  let wb : Whitelist := ⟨[("logs", []), ("Users", ["or_condition", "*"])]⟩
  have ha : parse a = .ok wa := by decide +kernel
  have hb : parse b = .ok wb := by decide +kernel
  obtain ⟨w, hparse, h⟩ := isWhitelisted_parse_append ha hb
  refine ⟨w, hparse, ?_, ?_⟩
  · obtain ⟨-, -, hboth, -⟩ := h .default "main.USERS" "bit_operation"
    have hclash : ∀ key na nb, Names key "main.USERS" → wa.find? key = some na → wb.find? key
        = some nb →
        (na = [] ↔ nb = []) := by
      intro key na nb _ hfind hfind'
      rw [OrderedMap.find?_eq_some_iff (by decide +kernel)] at hfind hfind'
      simp only [wa, wb, List.mem_cons, Prod.mk.injEq, List.not_mem_nil, or_false] at hfind hfind'
      rcases hfind with ⟨rfl, rfl⟩ | ⟨rfl, rfl⟩ <;> rcases hfind' with ⟨hkey, rfl⟩ | ⟨hkey, rfl⟩ <;>
        revert hkey <;> decide
    have hnames : Names "Users" "main.USERS" := by
      have hkey : Text.asciiLower "Users" = "users" := by decide +kernel
      have htable : Text.asciiLower "USERS" = "users" := by decide +kernel
      refine .inr ⟨"main".toList, "USERS".toList, by decide, by decide, ?_⟩
      rw [String.ofList_toList, Text.sameLetters_iff, hkey, htable]
    have hstar : (Policy.default.setWhitelist wb).isWhitelisted "main.USERS" "bit_operation"
        = true :=
      (isWhitelisted_setWhitelist_iff (by decide)).mpr
        ⟨"Users", ["or_condition", "*"], rfl, hnames, .inr ⟨"*", by decide, .inl rfl⟩⟩
    exact (hboth hclash).mpr (.inr hstar)
  · obtain ⟨-, honly, -⟩ := h .default "orders" "fuzzy_match"
    have hleft : (Policy.default.setWhitelist wa).isWhitelisted "orders" "fuzzy_match" = false := by
      decide +kernel
    have hright : (Policy.default.setWhitelist wb).isWhitelisted "orders" "fuzzy_match" = false :=
      by decide +kernel
    intro hlisted
    rcases honly hlisted with h | h
    · rw [hleft] at h
      cases h
    · rw [hright] at h
      cases h

/-- An entry for a table with one checker takes back what an entry without any said about the
others. -/
theorem suppression_lost_by_more_entries :
    parse ["t="] = .ok ⟨[("t", [])]⟩ ∧ parse ["t=fuzzy_match"] = .ok ⟨[("t", ["fuzzy_match"])]⟩
      ∧ parse (["t="] ++ ["t=fuzzy_match"]) = .ok ⟨[("t", ["fuzzy_match"])]⟩
      ∧ (Policy.default.setWhitelist ⟨[("t", [])]⟩).isWhitelisted "t" "or_condition" = true
      ∧ (Policy.default.setWhitelist ⟨[("t", ["fuzzy_match"])]⟩).isWhitelisted "t" "or_condition"
        = false :=
  ⟨by decide +kernel, by decide +kernel, by decide +kernel, by decide +kernel, by decide +kernel⟩

end Whitelist

end QueryLint
