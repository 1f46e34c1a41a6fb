import Mathlib.Data.List.Perm.Basic
import WorkflowLint.Proofs.Yaml.Keys
import WorkflowLint.Workflow.Document

/-!
# Renaming — what becomes of a mapping whose trigger key is renamed

If the truth value true is a key of a mapping, its entry is taken out, the last entry moves into the
gap (`Entries.moveLast`), and the value is set under the key `on`, in place if that key is there,
else at the end. `Entries.Renames` says what this comes to, for the mapping as a finite map and for
the order of its entries, and `Entries.renames_normalizeTrigger` that it comes to this in every
mapping whose keys differ, whichever entry is the last one and whether `on` is a key or not.
-/

namespace WorkflowLint

open Yaml (Value)

/-- Two keys hold different data, whichever of them is compared with the other. -/
def Yaml.Value.Apart (a b : Value) : Prop :=
  Value.same a b = false ∧ Value.same b a = false

theorem Yaml.Value.Apart.symm {a b : Value} (h : a.Apart b) : b.Apart a :=
  ⟨h.2, h.1⟩

/-- A string is the same as no other key. -/
theorem Yaml.Value.apart_string {k : Value} {s : String} (h : k ≠ .string s) :
    k.Apart (.string s) := by
  cases k with
  | string s' =>
      have hs : s' ≠ s := by
        rintro rfl
        exact h rfl
      simp [Apart, same, hs, Ne.symm hs]
  | _ =>
      simp [Apart, same]

namespace Entries

/-! ## Keys -/

theorem isTrueKey_iff (k : Value) : isTrueKey k = true ↔ k = .bool true := by
  cases k <;> simp [isTrueKey]

theorem isStringKey_iff (key : String) (k : Value) :
    isStringKey key k = true ↔ k = .string key := by
  cases k <;> simp [isStringKey]

theorem hasTrueKey_eq_false_iff (entries : Entries) :
    entries.hasTrueKey = false ↔ .bool true ∉ entries.map Prod.fst := by
  rw [← Bool.not_eq_true, hasTrueKey, List.any_eq_true, List.mem_map]
  simp only [isTrueKey_iff]

/-- A key stands at some place for the first time. -/
theorem exists_split {entries : Entries} {k : Value} (h : k ∈ entries.map Prod.fst) :
    ∃ before v after, entries = before ++ (k, v) :: after ∧ k ∉ before.map Prod.fst := by
  rcases List.eq_append_cons_of_mem h with ⟨_, _, hkeys, hfirst⟩
  rcases List.map_eq_append_iff.1 hkeys with ⟨before, rest, rfl, rfl, hrest⟩
  rcases List.map_eq_cons_iff.1 hrest with ⟨⟨k', v⟩, after, rfl, rfl, _⟩
  exact ⟨before, v, after, rfl, hfirst⟩

/-! ## Taking out the entry of the key true -/

/-- The entries behind a gap, after the last one has moved into it. -/
def moveLast (back : Entries) : Entries :=
  match back.getLast? with
  | some last => last :: back.dropLast
  | none => []

theorem moveLast_append_singleton (back : Entries) (last : Value × Value) :
    moveLast (back ++ [last]) = last :: back := by
  simp [moveLast]

theorem moveLast_perm (back : Entries) : (moveLast back).Perm back := by
  rcases List.eq_nil_or_concat' back with rfl | ⟨back, last, rfl⟩
  · exact List.Perm.refl []
  · rw [moveLast_append_singleton]
    exact (List.perm_append_singleton last back).symm

theorem takeTrue_cons (k v : Value) (rest : Entries) :
    takeTrue ((k, v) :: rest) =
      if isTrueKey k then some (v, moveLast rest)
      else (takeTrue rest).map fun (found, rest) => (found, (k, v) :: rest) :=
  rfl

theorem takeTrue_of_plain {entries : Entries} (h : entries.hasTrueKey = false) :
    takeTrue entries = none := by
  induction entries with
  | nil =>
      rfl
  | cons e entries ih =>
      rcases e with ⟨k, v⟩
      rw [hasTrueKey, List.any_cons, Bool.or_eq_false_iff] at h
      simp [takeTrue, h.1, ih h.2]

theorem takeTrue_append {front : Entries} (h : front.hasTrueKey = false) (v : Value)
    (back : Entries) :
    takeTrue (front ++ (.bool true, v) :: back) = some (v, front ++ moveLast back) := by
  induction front with
  | nil =>
      rfl
  | cons e front ih =>
      rcases e with ⟨k, v'⟩
      rw [hasTrueKey, List.any_cons, Bool.or_eq_false_iff] at h
      simp [takeTrue, h.1, ih h.2]

/-! ## Setting a value -/

section

variable {entries : Entries} {key : String}

/-- A key that is not there is set at the end. -/
theorem set_of_not_mem (v : Value) (h : .string key ∉ entries.map Prod.fst) :
    entries.set key v = entries ++ [(.string key, v)] := by
  induction entries with
  | nil =>
      rfl
  | cons e entries ih =>
      rcases e with ⟨k, v'⟩
      rw [List.map_cons, List.mem_cons, not_or] at h
      have hk : ¬ isStringKey key k = true := by
        rw [isStringKey_iff]
        exact Ne.symm h.1
      rw [set, if_neg hk, ih h.2, List.cons_append]

/-- A key that is there keeps its place. -/
theorem set_append {before : Entries} (h : .string key ∉ before.map Prod.fst) (u v : Value)
    (after : Entries) :
    set key v (before ++ (.string key, u) :: after) = before ++ (.string key, v) :: after := by
  induction before with
  | nil =>
      simp [set, isStringKey]
  | cons e before ih =>
      rcases e with ⟨k, v'⟩
      rw [List.map_cons, List.mem_cons, not_or] at h
      have hk : ¬ isStringKey key k = true := by
        rw [isStringKey_iff]
        exact Ne.symm h.1
      rw [List.cons_append, set, if_neg hk, ih h.2, List.cons_append]

theorem length_set (entries : Entries) (key : String) (v : Value) :
    (entries.set key v).length =
      if .string key ∈ entries.map Prod.fst then entries.length else entries.length + 1 := by
  split
  · next hmem =>
    rcases exists_split hmem with ⟨before, u, after, rfl, hfirst⟩
    rw [set_append hfirst, List.length_append, List.length_append]
    rfl
  · next hno =>
    rw [set_of_not_mem v hno, List.length_append]
    rfl

/-- Entries with the key set are those under other keys, and the one that is set. -/
theorem set_perm (hkeys : (entries.map Prod.fst).Nodup) (v : Value) :
    (entries.set key v).Perm
      ((.string key, v) :: entries.filter fun e => !isStringKey key e.1) := by
  have hothers : ∀ es : Entries, .string key ∉ es.map Prod.fst →
      es.filter (fun e => !isStringKey key e.1) = es := by
    intro es hno
    refine List.filter_eq_self.2 fun e he => ?_
    rw [Bool.not_eq_true', ← Bool.not_eq_true, isStringKey_iff]
    exact fun hk => hno (hk ▸ List.mem_map_of_mem he)
  by_cases hmem : .string key ∈ entries.map Prod.fst
  · rcases exists_split hmem with ⟨before, u, after, rfl, hfirst⟩
    have hlast : .string key ∉ after.map Prod.fst := by
      rw [List.map_append, List.map_cons] at hkeys
      exact (List.nodup_cons.1 hkeys.of_append_right).1
    rw [set_append hfirst, List.filter_append, List.filter_cons, hothers before hfirst,
      hothers after hlast]
    simp [isStringKey, List.perm_middle]
  · rw [set_of_not_mem v hmem, hothers entries hmem]
    exact List.perm_append_singleton _ _

end

/-! ## Renaming -/

section

variable {m : Entries}

theorem normalizeTrigger_of_plain (h : m.hasTrueKey = false) : normalizeTrigger m = m := by
  rw [normalizeTrigger, takeTrue_of_plain h]

theorem normalizeTrigger_append {front : Entries} (h : front.hasTrueKey = false) (v : Value)
    (back : Entries) :
    normalizeTrigger (front ++ (.bool true, v) :: back) =
      set triggerKey v (front ++ moveLast back) := by
  rw [normalizeTrigger, takeTrue_append h]

theorem perm_moveLast (front : Entries) (e : Value × Value) (back : Entries) :
    (front ++ e :: back).Perm (e :: (front ++ moveLast back)) :=
  List.perm_middle.trans (((moveLast_perm back).symm.append_left front).cons _)

/-- Where the key true stands, all that happens, and that the other keys still differ. -/
theorem normalizeTrigger_split {front back : Entries} {v : Value}
    (hkeys : ((front ++ (.bool true, v) :: back).map Prod.fst).Nodup) :
    normalizeTrigger (front ++ (.bool true, v) :: back) =
        set triggerKey v (front ++ moveLast back) ∧
      .bool true ∉ (front ++ moveLast back).map Prod.fst ∧
      ((front ++ moveLast back).map Prod.fst).Nodup := by
  have hrest := List.nodup_cons.1 (((perm_moveLast front _ back).map Prod.fst).nodup_iff.1 hkeys)
  have hfront : .bool true ∉ front.map Prod.fst := by
    intro h
    refine hrest.1 ?_
    rw [List.map_append]
    exact List.mem_append_left _ h
  exact ⟨normalizeTrigger_append ((hasTrueKey_eq_false_iff front).2 hfront) v back, hrest⟩

/-- The key true is not there, or it is, and then its value is set among the other entries. -/
theorem normalizeTrigger_cases (hkeys : (m.map Prod.fst).Nodup) :
    (.bool true ∉ m.map Prod.fst ∧ normalizeTrigger m = m) ∨
      ∃ v rest, m.Perm ((.bool true, v) :: rest) ∧ .bool true ∉ rest.map Prod.fst ∧
        (rest.map Prod.fst).Nodup ∧ normalizeTrigger m = set triggerKey v rest := by
  by_cases htrue : .bool true ∈ m.map Prod.fst
  · rcases exists_split htrue with ⟨front, v, back, rfl, _⟩
    rcases normalizeTrigger_split hkeys with ⟨hn, hplain, hrest⟩
    exact .inr ⟨v, front ++ moveLast back, perm_moveLast front _ back, hplain, hrest, hn⟩
  · exact .inl ⟨htrue, normalizeTrigger_of_plain ((hasTrueKey_eq_false_iff m).2 htrue)⟩

/-- Keys stay apart in every sense in which `on` is apart from all other keys. -/
theorem pairwise_keys_normalizeTrigger {R : Value → Value → Prop}
    (hsymm : ∀ {a b}, R a b → R b a)
    (hon : ∀ k, k ≠ .string triggerKey → R k (.string triggerKey))
    (hkeys : (m.map Prod.fst).Nodup) (h : (m.map Prod.fst).Pairwise R) :
    ((normalizeTrigger m).map Prod.fst).Pairwise R := by
  rcases normalizeTrigger_cases hkeys with ⟨_, hn⟩ | ⟨v, rest, hm, _, hrest, hn⟩
  · rwa [hn]
  · have hothers := (List.pairwise_cons.1 (((hm.map Prod.fst).pairwise_iff hsymm).1 h)).2
    rw [hn, ((set_perm hrest v).map Prod.fst).pairwise_iff hsymm, List.map_cons]
    refine List.pairwise_cons.2 ⟨?_, hothers.sublist (List.filter_sublist.map Prod.fst)⟩
    intro k hk
    rcases List.mem_map.1 hk with ⟨e, he, rfl⟩
    have hne : e.1 ≠ .string triggerKey := by
      rw [ne_eq, ← isStringKey_iff]
      simpa using (List.mem_filter.1 he).2
    exact hsymm (hon e.1 hne)

theorem true_not_mem_normalizeTrigger (hkeys : (m.map Prod.fst).Nodup) :
    .bool true ∉ (normalizeTrigger m).map Prod.fst := by
  rcases normalizeTrigger_cases hkeys with ⟨htrue, hn⟩ | ⟨v, rest, _, htrue, hrest, hn⟩
  · rwa [hn]
  · rw [hn, ((set_perm hrest v).map Prod.fst).mem_iff, List.map_cons, List.mem_cons, not_or]
    exact ⟨by simp, fun h => htrue ((List.filter_sublist.map Prod.fst).mem h)⟩

theorem trigger_mem_normalizeTrigger_iff (hkeys : (m.map Prod.fst).Nodup) (u : Value) :
    (.string triggerKey, u) ∈ normalizeTrigger m ↔
      (.bool true, u) ∈ m ∨ .bool true ∉ m.map Prod.fst ∧ (.string triggerKey, u) ∈ m := by
  rcases normalizeTrigger_cases hkeys with ⟨htrue, hn⟩ | ⟨v, rest, hm, htrue, hrest, hn⟩
  · have hno : (.bool true, u) ∉ m := fun h => htrue (List.mem_map_of_mem h)
    rw [hn]
    simp only [hno, htrue, not_false_eq_true, true_and, false_or]
  · have hno : (.bool true, u) ∉ rest := fun h => htrue (List.mem_map_of_mem h)
    have hthere : .bool true ∈ m.map Prod.fst :=
      (hm.map Prod.fst).mem_iff.2 List.mem_cons_self
    rw [hn, (set_perm hrest v).mem_iff, hm.mem_iff]
    simp [hno, hthere, isStringKey]

theorem mem_normalizeTrigger_iff (hkeys : (m.map Prod.fst).Nodup) {k : Value}
    (htrue : k ≠ .bool true) (hon : k ≠ .string triggerKey) (u : Value) :
    (k, u) ∈ normalizeTrigger m ↔ (k, u) ∈ m := by
  rcases normalizeTrigger_cases hkeys with ⟨_, hn⟩ | ⟨v, rest, hm, _, hrest, hn⟩
  · rw [hn]
  · have hkey : isStringKey triggerKey k = false := by
      rwa [← Bool.not_eq_true, isStringKey_iff]
    rw [hn, (set_perm hrest v).mem_iff, hm.mem_iff]
    simp [htrue, hon, hkey]

theorem length_normalizeTrigger (hkeys : (m.map Prod.fst).Nodup) :
    (normalizeTrigger m).length =
      if .bool true ∈ m.map Prod.fst ∧ .string triggerKey ∈ m.map Prod.fst then m.length - 1
      else m.length := by
  rcases normalizeTrigger_cases hkeys with ⟨htrue, hn⟩ | ⟨v, rest, hm, _, _, hn⟩
  · rw [hn, if_neg fun h => htrue h.1]
  · have hsame : .string triggerKey ∈ m.map Prod.fst ↔
        .string triggerKey ∈ rest.map Prod.fst := by
      rw [(hm.map Prod.fst).mem_iff, List.map_cons, List.mem_cons]
      simp
    have hthere : .bool true ∈ m.map Prod.fst :=
      (hm.map Prod.fst).mem_iff.2 List.mem_cons_self
    rw [hn, length_set, hm.length_eq, List.length_cons]
    simp only [hthere, hsame, true_and, Nat.add_sub_cancel]

/-- A mapping is another one with its trigger key renamed: first as a finite map, then entry by
entry. -/
structure Renames (m n : Entries) : Prop where
  distinct : (n.map Prod.fst).Nodup
  apart : (m.map Prod.fst).Pairwise Value.Apart → (n.map Prod.fst).Pairwise Value.Apart
  plain : .bool true ∉ n.map Prod.fst
  /-- The value of the key true wins. -/
  trigger : ∀ v, (.string triggerKey, v) ∈ n ↔
    (.bool true, v) ∈ m ∨ .bool true ∉ m.map Prod.fst ∧ (.string triggerKey, v) ∈ m
  others : ∀ k v, k ≠ .bool true → k ≠ .string triggerKey → ((k, v) ∈ n ↔ (k, v) ∈ m)
  size : n.length =
    if .bool true ∈ m.map Prod.fst ∧ .string triggerKey ∈ m.map Prod.fst then m.length - 1
    else m.length
  unchanged : .bool true ∉ m.map Prod.fst → n = m
  appended : ∀ front v back, m = front ++ (.bool true, v) :: back →
    .string triggerKey ∉ (front ++ moveLast back).map Prod.fst →
      n = front ++ moveLast back ++ [(.string triggerKey, v)]
  /-- The entry that has moved into the gap may be the one whose value is replaced. -/
  overwritten : ∀ front v back, m = front ++ (.bool true, v) :: back →
    ∀ before u after, front ++ moveLast back = before ++ (.string triggerKey, u) :: after →
      n = before ++ (.string triggerKey, v) :: after

/-- In a mapping whose keys differ, the trigger key is renamed as it should be, and renaming it
again changes nothing. -/
theorem renames_normalizeTrigger (hkeys : (m.map Prod.fst).Nodup) :
    Renames m (normalizeTrigger m) ∧
      normalizeTrigger (normalizeTrigger m) = normalizeTrigger m := by
  have hplain := true_not_mem_normalizeTrigger hkeys
  refine ⟨⟨?_, ?_, hplain, trigger_mem_normalizeTrigger_iff hkeys, ?_,
    length_normalizeTrigger hkeys, ?_, ?_, ?_⟩,
    normalizeTrigger_of_plain ((hasTrueKey_eq_false_iff _).2 hplain)⟩
  · exact pairwise_keys_normalizeTrigger Ne.symm (fun _ hk => hk) hkeys hkeys
  · exact pairwise_keys_normalizeTrigger Value.Apart.symm (fun _ hk => Value.apart_string hk) hkeys
  · intro k v htrue hon
    exact mem_normalizeTrigger_iff hkeys htrue hon v
  · intro htrue
    exact normalizeTrigger_of_plain ((hasTrueKey_eq_false_iff m).2 htrue)
  · rintro front v back rfl hno
    rw [(normalizeTrigger_split hkeys).1, set_of_not_mem v hno]
  · rintro front v back rfl before u after hrest
    rcases normalizeTrigger_split hkeys with ⟨hn, _, hnodup⟩
    rw [hrest, List.map_append, List.map_cons] at hnodup
    have hbefore := List.disjoint_of_nodup_append hnodup
    rw [hn, hrest, set_append (fun h => hbefore h List.mem_cons_self)]

end

/-! ### A mapping with both keys -/

/-- A workflow with both spellings of the key, `on` being the last key. -/
def twiceSource : String :=
  "name: app\ntrue: push\njobs: none\non: workflow_dispatch\n"

/-- The mapping that it holds. -/
def twiceEntries : Entries :=
  [(.string "name", .string "app"), (.bool true, .string "push"), (.string "jobs", .string "none"),
    (.string "on", .string "workflow_dispatch")]

theorem parse_twiceSource : Value.parse twiceSource = .ok (.mapping twiceEntries) := by
  apply eq_ok_of_toOption
  decide +kernel

/-- The entry that moves into the gap is the one whose value is replaced. -/
theorem renames_twiceEntries :
    (twiceEntries.map Prod.fst).Nodup ∧ Renames twiceEntries (normalizeTrigger twiceEntries) ∧
      normalizeTrigger twiceEntries =
        [(.string "name", .string "app"), (.string "on", .string "push"),
          (.string "jobs", .string "none")] := by
  have hkeys := Value.nodup_keys_of_parse parse_twiceSource
  have hrenames := (renames_normalizeTrigger hkeys).1
  exact ⟨hkeys, hrenames, hrenames.overwritten [_] _ [_, _] rfl [_] _ [_] rfl⟩

end Entries

end WorkflowLint
