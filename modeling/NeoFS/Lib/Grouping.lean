import Mathlib.Data.List.Dedup
import Mathlib.Data.List.Induction

set_option autoImplicit false

/- Grouping a list by a key into an association list of groups, the way a Go loop
   `groups[key(x)] = append(groups[key(x)], x)` fills a map of slices. Groups appear in the
   order of the first occurrence of their key and keep the input order inside. -/
namespace Lib.Grouping

variable {α κ : Type} [DecidableEq κ]

def insertGroup (k : κ) (a : α) : List (κ × List α) → List (κ × List α)
  | [] => [(k, [a])]
  | (k', members) :: rest =>
      if k' = k then (k', members ++ [a]) :: rest else (k', members) :: insertGroup k a rest

def groupBy (key : α → κ) (xs : List α) : List (κ × List α) :=
  xs.foldl (fun groups a => insertGroup (key a) a groups) []

/-- The members of key `k` in `xs`, in input order. -/
def membersOf (key : α → κ) (xs : List α) (k : κ) : List α :=
  xs.filter fun a => key a = k

def extendGroup (k : κ) (a : α) (p : κ × List α) : κ × List α :=
  if p.1 = k then (p.1, p.2 ++ [a]) else p

/-- What a table of groups of `xs` is: one group per key of `xs`, holding its members. -/
structure Grouped (key : α → κ) (xs : List α) (groups : List (κ × List α)) : Prop where
  keys_nodup : (groups.map Prod.fst).Nodup
  keys_mem : ∀ k, k ∈ groups.map Prod.fst ↔ k ∈ xs.map key
  members : ∀ p ∈ groups, p.2 = membersOf key xs p.1

@[simp] theorem groupBy_nil (key : α → κ) : groupBy key [] = [] := rfl

theorem group_by_append_singleton (key : α → κ) (xs : List α) (a : α) :
    groupBy key (xs ++ [a]) = insertGroup (key a) a (groupBy key xs) := by
  simp [groupBy, List.foldl_append]

theorem members_of_append_singleton (key : α → κ) (xs : List α) (a : α) (k : κ) :
    membersOf key (xs ++ [a]) k = membersOf key xs k ++ (if key a = k then [a] else []) := by
  by_cases hit : key a = k <;> simp [membersOf, List.filter_append, hit]

theorem members_of_absent (key : α → κ) (xs : List α) (k : κ) (absent : k ∉ xs.map key) :
    membersOf key xs k = [] := by
  simp only [membersOf, List.filter_eq_nil_iff, decide_eq_true_eq]
  intro a mem same
  exact absent (List.mem_map.mpr ⟨a, mem, same⟩)

@[simp] theorem extend_group_fst (k : κ) (a : α) (p : κ × List α) : (extendGroup k a p).1 = p.1 := by
  unfold extendGroup
  split <;> rfl

theorem insert_group_of_not_mem (k : κ) (a : α) (groups : List (κ × List α))
    (absent : k ∉ groups.map Prod.fst) : insertGroup k a groups = groups ++ [(k, [a])] := by
  induction groups with
  | nil => rfl
  | cons head rest ih =>
      obtain ⟨k', members⟩ := head
      have different : k' ≠ k := fun same => absent (by simp [same])
      have tail : k ∉ rest.map Prod.fst := fun mem => absent (by simp [mem])
      simp [insertGroup, different, ih tail]

theorem insert_group_of_mem (k : κ) (a : α) (groups : List (κ × List α))
    (nodup : (groups.map Prod.fst).Nodup) (present : k ∈ groups.map Prod.fst) :
    insertGroup k a groups = groups.map (extendGroup k a) := by
  induction groups with
  | nil => simp at present
  | cons head rest ih =>
      obtain ⟨k', members⟩ := head
      simp only [List.map_cons, List.nodup_cons] at nodup
      by_cases same : k' = k
      · subst same
        have untouched : ∀ p ∈ rest, extendGroup k' a p = p := by
          intro p mem
          have different : p.1 ≠ k' := fun eq => nodup.1 (List.mem_map.mpr ⟨p, mem, eq⟩)
          simp [extendGroup, different]
        simp [insertGroup, extendGroup, List.map_congr_left untouched]
      · have tail : k ∈ rest.map Prod.fst := by simpa [Ne.symm same] using present
        simp [insertGroup, extendGroup, same, ih nodup.2 tail]

theorem insert_group_flatten (k : κ) (a : α) (groups : List (κ × List α)) :
    ((insertGroup k a groups).map Prod.snd).flatten.Perm ((groups.map Prod.snd).flatten ++ [a]) := by
  induction groups with
  | nil => exact .refl _
  | cons head rest ih =>
      obtain ⟨k', members⟩ := head
      by_cases same : k' = k
      · simp only [insertGroup, if_pos same, List.map_cons, List.flatten_cons, List.append_assoc]
        exact .append_left members List.perm_append_comm
      · simp only [insertGroup, if_neg same, List.map_cons, List.flatten_cons, List.append_assoc]
        exact .append_left members ih

theorem grouped_nil (key : α → κ) : Grouped key [] [] :=
  ⟨List.nodup_nil, by simp, by simp⟩

theorem grouped_insert (key : α → κ) (xs : List α) (a : α) (groups : List (κ × List α))
    (grouped : Grouped key xs groups) : Grouped key (xs ++ [a]) (insertGroup (key a) a groups) := by
  by_cases present : key a ∈ groups.map Prod.fst
  · rw [insert_group_of_mem (key a) a groups grouped.keys_nodup present]
    have keys : (groups.map (extendGroup (key a) a)).map Prod.fst = groups.map Prod.fst := by
      simp [Function.comp_def]
    refine ⟨keys ▸ grouped.keys_nodup, fun k => ?_, fun p mem => ?_⟩
    · rw [keys, grouped.keys_mem]
      constructor
      · intro mem
        simp only [List.map_append, List.mem_append]
        exact .inl mem
      · intro mem
        simp only [List.map_append, List.map_cons, List.map_nil, List.mem_append, List.mem_singleton] at mem
        rcases mem with mem | rfl
        · exact mem
        · exact (grouped.keys_mem _).mp present
    · obtain ⟨q, qMem, rfl⟩ := List.mem_map.mp mem
      rw [extend_group_fst, members_of_append_singleton, ← grouped.members q qMem]
      by_cases hit : q.1 = key a
      · simp [extendGroup, hit]
      · simp [extendGroup, hit, Ne.symm hit]
  · rw [insert_group_of_not_mem (key a) a groups present]
    have absentInput : key a ∉ xs.map key := fun mem => present ((grouped.keys_mem _).mpr mem)
    refine ⟨?_, fun k => ?_, fun p mem => ?_⟩
    · simp only [List.map_append, List.map_cons, List.map_nil]
      rw [List.nodup_append]
      refine ⟨grouped.keys_nodup, List.nodup_singleton _, fun k kMem k' k'Mem same => ?_⟩
      rw [List.mem_singleton] at k'Mem
      subst k'Mem same
      exact present kMem
    · simp [grouped.keys_mem]
    · simp only [List.mem_append, List.mem_singleton] at mem
      rcases mem with mem | rfl
      · have different : p.1 ≠ key a := fun eq => present (List.mem_map.mpr ⟨p, mem, eq⟩)
        rw [members_of_append_singleton, if_neg (Ne.symm different), List.append_nil]
        exact grouped.members p mem
      · simp [members_of_append_singleton, members_of_absent key xs (key a) absentInput]

theorem group_by_grouped (key : α → κ) (xs : List α) : Grouped key xs (groupBy key xs) := by
  induction xs using List.reverseRecOn with
  | nil => exact grouped_nil key
  | append_singleton xs a ih =>
      rw [group_by_append_singleton]
      exact grouped_insert key xs a _ ih

theorem group_by_flatten (key : α → κ) (xs : List α) : ((groupBy key xs).map Prod.snd).flatten.Perm xs := by
  induction xs using List.reverseRecOn with
  | nil => exact .refl _
  | append_singleton xs a ih =>
      rw [group_by_append_singleton]
      exact (insert_group_flatten (key a) a _).trans (ih.append_right [a])

theorem group_by_perm (key : α → κ) (xs : List α) :
    (groupBy key xs).Perm ((xs.map key).dedup.map fun k => (k, membersOf key xs k)) := by
  have grouped := group_by_grouped key xs
  have rebuilt : groupBy key xs = (groupBy key xs).map fun p => (p.1, membersOf key xs p.1) := by
    conv => lhs; rw [← List.map_id (groupBy key xs)]
    exact List.map_congr_left fun p mem => by simp [← grouped.members p mem]
  have keys : ((groupBy key xs).map Prod.fst).Perm (xs.map key).dedup := by
    rw [List.perm_ext_iff_of_nodup grouped.keys_nodup (List.nodup_dedup _)]
    intro k
    rw [grouped.keys_mem, List.mem_dedup]
  rw [rebuilt]
  simpa [Function.comp_def] using keys.map fun k => (k, membersOf key xs k)

theorem group_by_members_ne_nil (key : α → κ) (xs : List α) (p : κ × List α) (mem : p ∈ groupBy key xs) :
    p.2 ≠ [] := by
  have grouped := group_by_grouped key xs
  obtain ⟨a, aMem, keyEq⟩ := List.mem_map.mp
    ((grouped.keys_mem p.1).mp (List.mem_map.mpr ⟨p, mem, rfl⟩))
  rw [grouped.members p mem]
  exact List.ne_nil_of_mem (List.mem_filter.mpr ⟨aMem, by simpa using keyEq⟩)

end Lib.Grouping
