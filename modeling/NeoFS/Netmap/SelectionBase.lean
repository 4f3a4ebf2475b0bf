import NeoFS.Netmap.Selector

set_option autoImplicit false

/- What `getSelectionBase` computes: the buckets are the attribute groups of the nodes the
   selector takes, up to the order of the groups and of the nodes inside each. -/
namespace NeoFS.Netmap

open Lib.Grouping

def attributeGroups (attr : String) (m : List NodeInfo) : List (List NodeInfo) :=
  if attr = "" then m.map ([·])
  else (m.map (·.attribute attr)).dedup.map (membersOf (·.attribute attr) m)

def bigGroupCount (attr : String) (m : List NodeInfo) (k : Nat) : Nat :=
  (attributeGroups attr m).countP fun g => k ≤ g.length

def candidates (fuel : Nat) (c : Context) (s : Selector) : List NodeInfo :=
  c.netMap.nodes.filter fun n => c.selects fuel s n == some true

structure BucketsOf (attr : String) (m : List NodeInfo) (buckets : List NodeAttrPair) : Prop where
  flatten : (buckets.map (·.nodes)).flatten.Perm m
  ne_nil : ∀ b ∈ buckets, b.nodes ≠ []
  attr_eq : attr ≠ "" → ∀ b ∈ buckets, ∀ n ∈ b.nodes, n.attribute attr = b.attr
  attrs_nodup : attr ≠ "" → (buckets.map (·.attr)).Nodup
  singleton : attr = "" → ∀ b ∈ buckets, b.nodes.length = 1
  count : ∀ k, (buckets.map (·.nodes)).countP (fun ns => k ≤ ns.length) = bigGroupCount attr m k

theorem select_matching_eq (test : NodeInfo → Option Bool) (ns kept : List NodeInfo)
    (run : selectMatching test ns = some kept) : kept = ns.filter fun n => test n == some true := by
  induction ns generalizing kept with
  | nil =>
      simp only [selectMatching, Option.some.injEq] at run
      simp [← run]
  | cons n rest ih =>
      simp only [selectMatching] at run
      cases tested : test n with
      | none => simp [tested] at run
      | some ok =>
          cases rested : selectMatching test rest with
          | none => simp [tested, rested] at run
          | some restKept =>
              simp only [tested, rested, Option.bind_some, Option.map_some, Option.some.injEq] at run
              subst run
              cases ok <;> simp [tested, ih restKept rested]

theorem select_matching_of_total (test : NodeInfo → Option Bool) (ns : List NodeInfo)
    (total : ∀ n ∈ ns, (test n).isSome) : ∃ kept, selectMatching test ns = some kept := by
  induction ns with
  | nil => exact ⟨[], rfl⟩
  | cons n rest ih =>
      obtain ⟨ok, tested⟩ := Option.isSome_iff_exists.mp (total n List.mem_cons_self)
      obtain ⟨restKept, rested⟩ := ih fun n' mem => total n' (List.mem_cons_of_mem n mem)
      exact ⟨if ok then n :: restKept else restKept, by simp [selectMatching, tested, rested]⟩

theorem BucketsOf.perm {attr : String} {m : List NodeInfo} {buckets buckets' : List NodeAttrPair}
    (base : BucketsOf attr m buckets) (reordered : buckets'.Perm buckets) : BucketsOf attr m buckets' where
  flatten := (reordered.map _).flatten.trans base.flatten
  ne_nil b mem := base.ne_nil b (reordered.subset mem)
  attr_eq named b mem := base.attr_eq named b (reordered.subset mem)
  attrs_nodup named := ((reordered.map _).nodup_iff).mpr (base.attrs_nodup named)
  singleton unnamed b mem := base.singleton unnamed b (reordered.subset mem)
  count k := ((reordered.map _).countP_eq _).trans (base.count k)

theorem flatten_map_perm {β : Type} (f g : β → List NodeInfo) (xs : List β) (each : ∀ x ∈ xs, (f x).Perm (g x)) :
    (xs.map f).flatten.Perm (xs.map g).flatten := by
  induction xs with
  | nil => exact .refl _
  | cons x rest ih =>
      simp only [List.map_cons, List.flatten_cons]
      exact (each x List.mem_cons_self).append (ih fun y mem => each y (List.mem_cons_of_mem x mem))

theorem BucketsOf.sortNodes (arr : Arrangement) {attr : String} {m : List NodeInfo} {buckets : List NodeAttrPair}
    (base : BucketsOf attr m buckets) :
    BucketsOf attr m (buckets.map fun p => { p with nodes := arr.sortNodes p.nodes }) := by
  have lengths : ∀ p : NodeAttrPair, (arr.sortNodes p.nodes).length = p.nodes.length :=
    fun p => (arr.sortNodes_perm p.nodes).length_eq
  refine ⟨?_, ?_, ?_, ?_, ?_, fun k => ?_⟩
  · rw [List.map_map]
    exact (flatten_map_perm _ _ buckets fun p _ => arr.sortNodes_perm p.nodes).trans base.flatten
  · simp only [List.mem_map]
    rintro _ ⟨p, mem, rfl⟩ empty
    exact base.ne_nil p mem (List.eq_nil_of_length_eq_zero (by simpa [← lengths p] using congrArg List.length empty))
  · simp only [List.mem_map]
    rintro named _ ⟨p, mem, rfl⟩ n nMem
    exact base.attr_eq named p mem n ((arr.sortNodes_perm p.nodes).subset nMem)
  · intro named
    simpa [Function.comp_def] using base.attrs_nodup named
  · simp only [List.mem_map]
    rintro unnamed _ ⟨p, mem, rfl⟩
    exact (lengths p).trans (base.singleton unnamed p mem)
  · rw [← base.count k, List.map_map]
    simp [List.countP_map, Function.comp_def, lengths]

theorem buckets_of_group_by (attr : String) (m : List NodeInfo) (named : attr ≠ "") :
    BucketsOf attr m ((groupBy (·.attribute attr) m).map fun g => (⟨g.1, g.2⟩ : NodeAttrPair)) := by
  have grouped := group_by_grouped (·.attribute attr) m
  have nodes : ((groupBy (·.attribute attr) m).map fun g => (⟨g.1, g.2⟩ : NodeAttrPair)).map (·.nodes) =
      (groupBy (·.attribute attr) m).map Prod.snd := by
    simp [Function.comp_def]
  refine ⟨?_, ?_, ?_, ?_, ?_, fun k => ?_⟩
  · rw [nodes]
    exact group_by_flatten _ m
  · simp only [List.mem_map]
    rintro _ ⟨g, mem, rfl⟩
    exact group_by_members_ne_nil _ m g mem
  · simp only [List.mem_map]
    rintro - _ ⟨g, mem, rfl⟩ n nMem
    rw [grouped.members g mem] at nMem
    simpa [membersOf] using (List.mem_filter.mp nMem).2
  · intro _
    simpa [Function.comp_def] using grouped.keys_nodup
  · intro unnamed
    exact absurd unnamed named
  · have canonical := (group_by_perm (·.attribute attr) m).map Prod.snd
    rw [nodes, bigGroupCount, attributeGroups, if_neg named, (canonical.countP_eq _)]
    simp [Function.comp_def]

theorem group_pairs_buckets (arr : Arrangement) (attr : String) (m : List NodeInfo) :
    BucketsOf attr m (groupPairs arr attr m) := by
  by_cases unnamed : attr = ""
  · subst unnamed
    have singletons : ∀ ns : List NodeInfo, (ns.map fun n => [n]).flatten = ns := by
      intro ns
      induction ns with
      | nil => rfl
      | cons n rest ih => simp [ih]
    refine ⟨?_, ?_, ?_, ?_, ?_, fun k => ?_⟩
    · have unfolded : groupPairs arr "" m = m.map fun n => ⟨"", [n]⟩ := if_pos rfl
      rw [unfolded, List.map_map]
      simpa only [Function.comp_def, singletons] using List.Perm.refl m
    · simp [groupPairs]
    · intro named
      exact absurd rfl named
    · intro named
      exact absurd rfl named
    · simp [groupPairs]
    · simp [groupPairs, bigGroupCount, attributeGroups, List.countP_map, Function.comp_def]
  · rw [groupPairs, if_neg unnamed]
    exact (buckets_of_group_by attr m unnamed).perm ((arr.mapOrder_perm _).map _)

theorem get_selection_base_buckets (arr : Arrangement) (fuel : Nat) (c : Context) (s : Selector)
    (buckets : List NodeAttrPair) (base : getSelectionBase arr fuel c s = some buckets) :
    BucketsOf s.attr (candidates fuel c s) buckets := by
  simp only [getSelectionBase, Option.map_eq_some_iff] at base
  obtain ⟨matching, selected, rfl⟩ := base
  have kept : matching = candidates fuel c s := select_matching_eq _ _ _ selected
  subst kept
  by_cases seeded : c.hrwSeed ≠ []
  · simpa only [if_pos seeded] using (group_pairs_buckets arr s.attr _).sortNodes arr
  · simpa only [if_neg seeded] using group_pairs_buckets arr s.attr _

theorem get_selection_base_unnamed_main (arr : Arrangement) (fuel : Nat) (c : Context) (s : Selector)
    (unnamed : s.attr = "") (main : s.filter = mainFilterName) :
    getSelectionBase arr fuel c s = some (c.netMap.nodes.map fun n => ⟨"", [n]⟩) := by
  have always : ∀ n, c.selects fuel s n = some true := fun n => by simp [Context.selects, main]
  obtain ⟨kept, found⟩ := select_matching_of_total (c.selects fuel s) c.netMap.nodes fun n _ => by simp [always]
  have every : kept = c.netMap.nodes := by
    rw [select_matching_eq _ _ _ found]
    exact List.filter_eq_self.mpr fun n _ => by simp [always]
  simp only [getSelectionBase, found, every, groupPairs, unnamed, if_true, Option.map_some]
  split <;> simp

end NeoFS.Netmap
