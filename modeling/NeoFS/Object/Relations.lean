import Mathlib.Data.List.Basic
import Mathlib.Data.List.Infix
import Mathlib.Data.List.Nodup

set_option autoImplicit false

/- relations.Get of object/relations/relations.go, over a finite object store served by the HEAD
   and search executors. The store maps object IDs to headers, or to the split information that
   HEAD returns as an error for a virtual object. Get reads the root's split information, scans
   the root's children for a link object or a last part when it has no link, and then lists the
   link's children or walks the PreviousID links back from the last part. Object IDs are any type
   with equality and a zero ID. -/
namespace NeoFS.Relations

/-- The split fields of an object header (the part of the header Get reads). -/
structure SplitHeader (ID : Type) where
  parID : ID
  prev : ID
  parSig : Bool
  parHdr : Bool
  children : List ID
  id : List UInt8
  first : ID

-- The link and last part of an object.SplitInfo; its split ID and first part are not read by Get.
structure SplitInfo (ID : Type) where
  link : ID
  lastPart : ID

inductive Stored (ID : Type) where
  | header (split : SplitHeader ID)
  | virtual (info : SplitInfo ID)

inductive HeadFailure (ID : Type) where
  | notFound
  | splitInfo (info : SplitInfo ID)

-- The executor calls Get makes.
inductive Call (ID : Type) where
  | head (id : ID)
  | search (parent : ID)

-- The errors of Get, by the context each one is wrapped in.
inductive RelationsError (ID : Type) where
  | rawHeader (id : ID)
  | splitInfo (id : ID)
  | linkingHeader (id : ID)
  | missingSplitData
  | memberHeader (id : ID)
  | duplicatedMember (id : ID)

-- What getSplitInfo returns: the split info, ErrNoSplitInfo, or another error.
inductive SplitInfoResult (ID : Type) where
  | info (si : SplitInfo ID)
  | noSplitInfo
  | failed

variable {ID : Type} [DecidableEq ID] (zero : ID)

abbrev Store (ID : Type) := List (ID × Stored ID)

def head (store : Store ID) (id : ID) : Except (HeadFailure ID) (SplitHeader ID) :=
  match store.lookup id with
  | none => .error .notFound
  | some (.header split) => .ok split
  | some (.virtual info) => .error (.splitInfo info)

def search (store : Store ID) (parent : ID) : List ID :=
  store.filterMap fun entry =>
    match entry.2 with
    | .header split => if split.parID = parent then some entry.1 else none
    | .virtual _ => none

-- `split.isZero`, and `hdr.SplitID() != nil`: the split ID decodes as a 16-byte UUID.
def SplitHeader.isZero (split : SplitHeader ID) : Bool :=
  split.parID = zero && split.prev = zero && !split.parSig && !split.parHdr && split.children.isEmpty &&
    split.id.isEmpty && split.first = zero

def SplitHeader.hasSplitID (split : SplitHeader ID) : Bool := split.id.length = 16

def getSplitInfo (store : Store ID) (objID : ID) : SplitInfoResult ID :=
  match head store objID with
  | .error (.splitInfo info) => .info info
  | .error .notFound => .failed
  | .ok split =>
      if !split.hasSplitID then .noSplitInfo
      else if !split.isZero zero then
        if split.children.isEmpty then .info ⟨zero, objID⟩ else .info ⟨objID, zero⟩
      else .info ⟨zero, zero⟩

def scanChildren (store : Store ID) (si : SplitInfo ID) :
    List ID → Except (RelationsError ID) (SplitInfo ID) × List (Call ID)
  | [] => (.ok si, [])
  | id :: ids =>
      match getSplitInfo zero store id with
      | .failed => (.error (.splitInfo id), [.head id])
      | .noSplitInfo =>
          let rest := scanChildren store si ids
          (rest.1, .head id :: rest.2)
      | .info split =>
          if split.link ≠ zero then (.ok { si with link := split.link }, [.head id])
          else
            let rest := scanChildren store (if split.lastPart ≠ zero then { si with lastPart := split.lastPart } else si) ids
            (rest.1, .head id :: rest.2)

def resolveSplitInfo (store : Store ID) (root : ID) (si : SplitInfo ID) :
    Except (RelationsError ID) (SplitInfo ID) × List (Call ID) :=
  if si.link = zero then
    let scanned := scanChildren zero store si (search store root)
    (scanned.1, .search root :: scanned.2)
  else (.ok si, [])

def walkMeasure (store : Store ID) (current : ID) (chain : List ID) : Nat :=
  2 * ((store.map (·.1)).filter (· ∉ chain)).length + if current ∈ store.map (·.1) then 1 else 0

theorem lookup_some_mem {store : Store ID} {id : ID} {entry : Stored ID} (found : store.lookup id = some entry) :
    id ∈ store.map (·.1) := by
  obtain ⟨before, after, split, -⟩ := List.lookup_eq_some_iff.mp found
  rw [split]
  simp

theorem head_ok_mem {store : Store ID} {id : ID} {split : SplitHeader ID} (found : head store id = .ok split) :
    id ∈ store.map (·.1) := by
  unfold head at found
  split at found
  · cases found
  · exact lookup_some_mem ‹_›
  · cases found

theorem length_filter_cons_add (ids chain : List ID) {id : ID} (fresh : id ∉ chain) :
    (ids.filter (· ∉ id :: chain)).length + (if id ∈ ids then 1 else 0) ≤ (ids.filter (· ∉ chain)).length := by
  have narrowed : ids.filter (· ∉ id :: chain) = (ids.filter (· ∉ chain)).filter (· ≠ id) := by
    rw [List.filter_filter]
    congr 1
    funext other
    simp
  rw [narrowed]
  split_ifs with stored
  · have shorter : ((ids.filter (· ∉ chain)).filter (· ≠ id)).length < (ids.filter (· ∉ chain)).length :=
      List.length_filter_lt_length_iff_exists.mpr ⟨id, List.mem_filter.mpr ⟨stored, by simpa using fresh⟩, by simp⟩
    omega
  · exact Nat.add_zero _ ▸ List.length_filter_le _ _

set_option linter.unusedVariables false in
def walk (store : Store ID) (current : ID) (chain : List ID) : Except (RelationsError ID) (List ID) × List (Call ID) :=
  match found : head store current with
  | .error _ => (.error (.memberHeader current), [.head current])
  | .ok split =>
      if split.prev = zero then (.ok chain, [.head current])
      else if known : split.prev ∈ chain then (.error (.duplicatedMember split.prev), [.head current])
      else
        let rest := walk store split.prev (split.prev :: chain)
        (rest.1, .head current :: rest.2)
termination_by walkMeasure store current chain
decreasing_by
  have stored := head_ok_mem found
  have fewer := length_filter_cons_add (store.map (·.1)) chain known
  simp only [walkMeasure, if_pos stored]
  split_ifs at fewer ⊢ <;> omega

def get (store : Store ID) (root : ID) : Except (RelationsError ID) (List ID × Option ID) × List (Call ID) :=
  match getSplitInfo zero store root with
  | .noSplitInfo => (.ok ([], none), [.head root])
  | .failed => (.error (.rawHeader root), [.head root])
  | .info si =>
      let resolved := resolveSplitInfo zero store root si
      match resolved.1 with
      | .error err => (.error err, .head root :: resolved.2)
      | .ok si =>
          if si.link ≠ zero then
            match head store si.link with
            | .ok split => (.ok (split.children, some si.link), .head root :: resolved.2 ++ [.head si.link])
            | .error _ => (.error (.linkingHeader si.link), .head root :: resolved.2 ++ [.head si.link])
          else if si.lastPart = zero then (.error .missingSplitData, .head root :: resolved.2)
          else
            let walked := walk zero store si.lastPart [si.lastPart]
            (walked.1.map (·, none), .head root :: resolved.2 ++ walked.2)

section Chains

def prevOf (store : Store ID) (id : ID) : Option ID :=
  match head store id with
  | .ok split => some split.prev
  | .error _ => none

def Back (store : Store ID) : List ID → Prop
  | x :: y :: rest => prevOf store x = some y ∧ Back store (y :: rest)
  | _ => True

theorem back_append {store : Store ID} {x y : ID} :
    ∀ {path : List ID}, Back store path → path.getLast? = some x → prevOf store x = some y →
      Back store (path ++ [y])
  | [], _, last, _ => by simp at last
  | [z], _, last, linked => by
      simp only [List.getLast?_singleton, Option.some.injEq] at last
      subst last
      exact ⟨linked, trivial⟩
  | z :: w :: rest, back, last, linked => by
      have tail := back_append back.2 (by simpa using last) linked
      exact ⟨back.1, tail⟩

theorem walk_spec (store : Store ID) (current : ID) (chain : List ID) :
    chain.head? = some current → chain.Nodup → Back store chain.reverse → ∀ res, (walk zero store current chain).1 = .ok res →
      res.Nodup ∧ Back store res.reverse ∧ chain <:+ res ∧ ∃ first, res.head? = some first ∧ prevOf store first = some zero := by
  fun_induction walk zero store current chain with
  | case1 current chain failure found => intro _ _ _ res ran; cases ran
  | case2 current chain split found first =>
      intro headed nodup back res ran
      cases ran
      exact ⟨nodup, back, List.suffix_refl _, current, headed, by simp [prevOf, found, first]⟩
  | case3 current chain split found _ known => intro _ _ _ res ran; cases ran
  | case4 current chain split found _ fresh rest ih =>
      intro headed nodup back res ran
      have linked : prevOf store current = some split.prev := by simp [prevOf, found]
      have last : chain.reverse.getLast? = some current := by rw [List.getLast?_reverse]; exact headed
      obtain ⟨resNodup, resBack, suffix, first⟩ := ih rfl (List.nodup_cons.mpr ⟨fresh, nodup⟩)
        (by rw [List.reverse_cons]; exact back_append back last linked) res ran
      exact ⟨resNodup, resBack, (List.suffix_cons _ _).trans suffix, first⟩

end Chains

section Calls

theorem walk_calls (store : Store ID) (current : ID) (chain : List ID) :
    (walk zero store current chain).2.length ≤
      ((store.map (·.1)).filter (· ∉ chain)).length + (if current ∈ store.map (·.1) then 1 else 0) + 1 := by
  fun_induction walk zero store current chain with
  | case1 => simp
  | case2 => simp
  | case3 => simp
  | case4 current chain split found _ fresh rest ih =>
      -- the member just HEADed is stored, and the next one leaves the stored IDs still out
      have stored := head_ok_mem found
      have fewer := length_filter_cons_add (store.map (·.1)) chain fresh
      simp only [rest, List.length_cons, if_pos stored]
      omega

theorem walk_calls_from (store : Store ID) (last : ID) : (walk zero store last [last]).2.length ≤ store.length + 1 := by
  have bound := walk_calls zero store last [last]
  have fewer := length_filter_cons_add (store.map (·.1)) [] (List.not_mem_nil (a := last))
  have all : ((store.map (·.1)).filter (· ∉ ([] : List ID))).length = store.length := by simp
  omega

theorem scan_children_calls (store : Store ID) (ids : List ID) :
    ∀ si, (scanChildren zero store si ids).2.length ≤ ids.length := by
  induction ids with
  | nil => intro si; simp [scanChildren]
  | cons id ids ih =>
      intro si
      simp only [scanChildren]
      split
      · simp
      · exact Nat.succ_le_succ (ih si)
      · split_ifs
        · simp
        all_goals exact Nat.succ_le_succ (ih _)

theorem resolve_split_info_calls (store : Store ID) (root : ID) (si : SplitInfo ID) :
    (resolveSplitInfo zero store root si).2.length ≤ store.length + 1 := by
  unfold resolveSplitInfo
  split_ifs
  · have scanned := scan_children_calls zero store (search store root) si
    have found : (search store root).length ≤ store.length := List.length_filterMap_le _ _
    simp only [List.length_cons]
    omega
  · simp

theorem get_calls (store : Store ID) (root : ID) : (get zero store root).2.length ≤ 2 * store.length + 3 := by
  unfold get
  split
  · simp
  · simp
  · rename_i si _
    have resolved := resolve_split_info_calls zero store root si
    dsimp only
    split
    · simp only [List.length_cons]
      omega
    · rename_i last _
      have walked := walk_calls_from zero store last.lastPart
      split_ifs
      · split <;> simp only [List.length_cons, List.length_append, List.length_nil] <;> omega
      · simp only [List.length_cons]
        omega
      · simp only [List.length_cons, List.length_append]
        omega

end Calls

section ChainStore

def part (root prev : Nat) : SplitHeader Nat := ⟨root, prev, false, false, [], [], 0⟩

def chainParts (root : Nat) : Nat → Store Nat
  | 0 => []
  | k + 1 => (k + 1, .header (part root k)) :: chainParts root k

def chainStore (parts : Nat) : Store Nat := (parts + 1, .virtual ⟨0, parts⟩) :: chainParts (parts + 1) parts

theorem length_chain_store (parts : Nat) : (chainStore parts).length = parts + 1 := by
  have parted : ∀ root k, (chainParts root k).length = k := by
    intro root k
    induction k with
    | zero => rfl
    | succ k ih => simp [chainParts, ih]
  simp [chainStore, parted]

theorem lookup_chain_parts (root : Nat) :
    ∀ k j, 0 < j → j ≤ k → (chainParts root k).lookup j = some (.header (part root (j - 1))) := by
  intro k
  induction k with
  | zero => intro j pos le; omega
  | succ k ih =>
      intro j pos le
      by_cases top : j = k + 1
      · subst top
        simp [chainParts]
      · have below : (j == k + 1) = false := by simpa using top
        rw [chainParts, List.lookup_cons, below]
        exact ih j pos (by omega)

theorem head_chain_store {parts j : Nat} (pos : 0 < j) (le : j ≤ parts) :
    head (chainStore parts) j = .ok (part (parts + 1) (j - 1)) := by
  have other : (j == parts + 1) = false := by simp; omega
  simp only [head, chainStore, List.lookup_cons, other, lookup_chain_parts (parts + 1) parts j pos le]

theorem search_chain_store (parts : Nat) :
    search (chainStore parts) (parts + 1) = (chainParts (parts + 1) parts).map (·.1) := by
  have parted : ∀ k, search (chainParts (parts + 1) k) (parts + 1) = (chainParts (parts + 1) k).map (·.1) := by
    intro k
    induction k with
    | zero => rfl
    | succ k ih => simp [search, chainParts, part, ← ih]
  simp [search, chainStore, ← parted parts]

theorem scan_chain_store (parts : Nat) (si : SplitInfo Nat) :
    ∀ k ≤ parts, (scanChildren 0 (chainStore parts) si ((chainParts (parts + 1) k).map (·.1))).1 = .ok si ∧
      (scanChildren 0 (chainStore parts) si ((chainParts (parts + 1) k).map (·.1))).2.length = k := by
  intro k
  induction k with
  | zero => intro _; exact ⟨rfl, rfl⟩
  | succ k ih =>
      intro le
      have noInfo : getSplitInfo 0 (chainStore parts) (k + 1) = .noSplitInfo := by
        simp [getSplitInfo, head_chain_store (Nat.succ_pos k) le, part, SplitHeader.hasSplitID]
      obtain ⟨result, calls⟩ := ih (by omega)
      simp only [chainParts, List.map_cons, scanChildren, noInfo, List.length_cons]
      exact ⟨result, by rw [calls]⟩

theorem walk_chain_store (parts : Nat) :
    ∀ k, 0 < k → k ≤ parts → ∀ chain : List Nat, (∀ x ∈ chain, k < x) →
      (walk 0 (chainStore parts) k (k :: chain)).1 = .ok (List.range' 1 k ++ chain) ∧
        (walk 0 (chainStore parts) k (k :: chain)).2.length = k := by
  intro k
  induction k with
  | zero => intro pos; omega
  | succ k ih =>
      intro _ le chain above
      rw [walk]
      split
      · rename_i failure found
        rw [head_chain_store (Nat.succ_pos k) le] at found
        cases found
      · rename_i split found
        rw [head_chain_store (Nat.succ_pos k) le] at found
        cases found
        by_cases first : k = 0
        · subst first
          simp [part]
        · have fresh : k ∉ (k + 1) :: chain := by
            simp only [List.mem_cons, not_or]
            exact ⟨by omega, fun mem => by have := above k mem; omega⟩
          obtain ⟨result, calls⟩ := ih (by omega) (by omega) ((k + 1) :: chain)
            (fun x mem => by rcases List.mem_cons.mp mem with rfl | mem <;> [omega; exact Nat.lt_of_succ_lt (above x mem)])
          simp only [part, Nat.succ_sub_one, if_neg first, dif_neg fresh, List.length_cons, result, calls]
          refine ⟨?_, trivial⟩
          rw [List.range'_concat, List.append_assoc, List.singleton_append, Nat.one_mul, Nat.add_comm 1 k]

theorem get_chain_store {parts : Nat} (pos : 0 < parts) :
    (get 0 (chainStore parts) (parts + 1)).1 = .ok (List.range' 1 parts, none) ∧
      (get 0 (chainStore parts) (parts + 1)).2.length = 2 * parts + 2 := by
  have root : getSplitInfo 0 (chainStore parts) (parts + 1) = .info ⟨0, parts⟩ := by
    simp [getSplitInfo, head, chainStore]
  obtain ⟨scanned, scanCalls⟩ := scan_chain_store parts ⟨0, parts⟩ parts (Nat.le_refl parts)
  have resolved : (resolveSplitInfo 0 (chainStore parts) (parts + 1) ⟨0, parts⟩).1 = .ok ⟨0, parts⟩ ∧
      (resolveSplitInfo 0 (chainStore parts) (parts + 1) ⟨0, parts⟩).2.length = parts + 1 := by
    simp only [resolveSplitInfo, if_true, search_chain_store, scanned, List.length_cons, scanCalls]
    exact ⟨trivial, trivial⟩
  obtain ⟨walked, walkCalls⟩ := walk_chain_store parts parts pos (Nat.le_refl parts) [] (fun _ none => nomatch none)
  have nonzero : parts ≠ 0 := by omega
  simp only [get, root, resolved.1, ne_eq, not_true_eq_false, if_false, if_neg nonzero, walked, List.append_nil]
  refine ⟨rfl, ?_⟩
  simp only [List.length_cons, List.length_append, resolved.2, walkCalls]
  omega

/-- Get's calls are not bounded by the number of stored objects plus any constant. -/
theorem get_calls_exceed_store_size :
    ¬ ∃ c, ∀ (store : Store Nat) (root : Nat), (get 0 store root).2.length ≤ store.length + c := by
  rintro ⟨c, bounded⟩
  have calls := bounded (chainStore (c + 1)) (c + 2)
  rw [length_chain_store, (get_chain_store (Nat.succ_pos c)).2] at calls
  omega

end ChainStore

section Results

theorem get_ok_cases {store : Store ID} {root : ID} {res : List ID} {linking : Option ID}
    (ran : (get zero store root).1 = .ok (res, linking)) :
    (getSplitInfo zero store root = .noSplitInfo ∧ res = [] ∧ linking = none) ∨
      ∃ si si', getSplitInfo zero store root = .info si ∧ (resolveSplitInfo zero store root si).1 = .ok si' ∧
        ((si'.link ≠ zero ∧ linking = some si'.link) ∨
          (si'.link = zero ∧ linking = none ∧ si'.lastPart ≠ zero ∧
            (walk zero store si'.lastPart [si'.lastPart]).1 = .ok res)) := by
  unfold get at ran
  split at ran
  · rename_i found
    cases ran
    exact .inl ⟨found, rfl, rfl⟩
  · cases ran
  · rename_i si found
    dsimp only at ran
    split at ran
    · cases ran
    · rename_i si' resolved
      by_cases linked : si'.link ≠ zero
      · -- a link object makes Get return it
        rw [if_pos linked] at ran
        split at ran
        · cases ran
          exact .inr ⟨si, si', found, resolved, .inl ⟨linked, rfl⟩⟩
        · cases ran
      rw [if_neg linked] at ran
      by_cases missing : si'.lastPart = zero
      · rw [if_pos missing] at ran
        cases ran
      rw [if_neg missing] at ran
      cases walked : (walk zero store si'.lastPart [si'.lastPart]).1 with
      | error err => rw [walked] at ran; cases ran
      | ok chain =>
          rw [walked] at ran
          cases ran
          exact .inr ⟨si, si', found, resolved, .inr ⟨not_not.mp linked, rfl, missing, walked⟩⟩

theorem back_prefix {store : Store ID} {last : ID} :
    ∀ {path chain : List ID}, Back store path → path.head? = some last → (∀ x ∈ path, x ≠ zero) →
      Back store chain → chain.head? = some last →
      (∃ first, chain.getLast? = some first ∧ prevOf store first = some zero) → path <+: chain
  | [], _, _, _, _, _, _, _ => List.nil_prefix
  | [x], chain, _, start, _, _, chainStart, _ => by
      obtain ⟨rest, rfl⟩ : ∃ rest, chain = x :: rest := by
        cases chain with
        | nil => simp at chainStart
        | cons y rest =>
            simp only [List.head?_cons, Option.some.injEq] at start chainStart
            exact ⟨rest, by rw [chainStart, start]⟩
      exact List.prefix_cons_inj x |>.mpr List.nil_prefix
  | x :: y :: rest, chain, back, start, nonzero, chainBack, chainStart, ending => by
      simp only [List.head?_cons, Option.some.injEq] at start
      subst start
      cases chain with
      | nil => simp at chainStart
      | cons z chain =>
          simp only [List.head?_cons, Option.some.injEq] at chainStart
          subst chainStart
          cases chain with
          | nil =>
              -- the chain stops at x, whose previous ID is zero: the path cannot go on to y
              obtain ⟨first, single, stops⟩ := ending
              simp only [List.getLast?_singleton, Option.some.injEq] at single
              subst single
              have same : y = zero := Option.some.inj (back.1.symm.trans stops)
              exact absurd same (nonzero y (by simp))
          | cons w chain =>
              have same : w = y := Option.some.inj (chainBack.1.symm.trans back.1)
              subst same
              have tail := back_prefix back.2 rfl (fun v mem => nonzero v (List.mem_cons_of_mem _ mem)) chainBack.2 rfl
                (by simpa using ending)
              exact (List.prefix_cons_inj _).mpr tail

theorem get_bounded_and_chained (store : Store ID) (root : ID) :
    (get zero store root).2.length ≤ 2 * store.length + 3 ∧
      (∀ res, (get zero store root).1 = .ok (res, none) → res ≠ [] →
        ∃ si si', getSplitInfo zero store root = .info si ∧ (resolveSplitInfo zero store root si).1 = .ok si' ∧
          res.Nodup ∧ res.getLast? = some si'.lastPart ∧ Back store res.reverse ∧
          ∃ first, res.head? = some first ∧ prevOf store first = some zero) ∧
      (∀ si si' path, getSplitInfo zero store root = .info si → (resolveSplitInfo zero store root si).1 = .ok si' →
        si'.link = zero → Back store path → path.head? = some si'.lastPart → (∀ x ∈ path, x ≠ zero) →
        ¬ path.Nodup → ∃ err, (get zero store root).1 = .error err) := by
  refine ⟨get_calls zero store root, ?_, ?_⟩
  · intro res ran nonempty
    rcases get_ok_cases zero ran with ⟨_, empty, _⟩ | ⟨si, si', found, resolved, ⟨_, linked⟩ | ⟨_, _, _, walked⟩⟩
    · exact absurd empty nonempty
    · cases linked
    · obtain ⟨nodup, back, suffix, first⟩ :=
        walk_spec zero store si'.lastPart [si'.lastPart] rfl (List.nodup_singleton _) trivial res walked
      obtain ⟨pre, rfl⟩ := suffix
      exact ⟨si, si', found, resolved, nodup, by simp, back, first⟩
  · intro si si' path found resolved linkless back start nonzero repeats
    cases result : (get zero store root).1 with
    | error err => exact ⟨err, rfl⟩
    | ok value =>
        exfalso
        rcases get_ok_cases zero result with ⟨noInfo, _, _⟩ | ⟨si₂, si₂', found₂, resolved₂, cases⟩
        · rw [found] at noInfo
          cases noInfo
        -- the split info is the one resolved above
        rw [found] at found₂
        cases found₂
        rw [resolved] at resolved₂
        cases resolved₂
        rcases cases with ⟨linked, _⟩ | ⟨_, _, _, walked⟩
        · exact linked linkless
        · obtain ⟨nodup, chainBack, suffix, first, firstHead, firstPrev⟩ :=
            walk_spec zero store si'.lastPart [si'.lastPart] rfl (List.nodup_singleton _) trivial value.1 walked
          obtain ⟨pre, split⟩ := suffix
          have along := back_prefix zero back start nonzero chainBack (by rw [← split]; simp)
            ⟨first, by rw [List.getLast?_reverse]; exact firstHead, firstPrev⟩
          exact repeats (List.nodup_reverse.mpr nodup |>.sublist along.sublist)

theorem get_chains_two_parts :
    (get 0 (chainStore 2) 3).2.length ≤ 2 * (chainStore 2).length + 3 ∧
      ∃ si si', getSplitInfo 0 (chainStore 2) 3 = .info si ∧ (resolveSplitInfo 0 (chainStore 2) 3 si).1 = .ok si' ∧
        [1, 2].Nodup ∧ [1, 2].getLast? = some si'.lastPart ∧ Back (chainStore 2) [1, 2].reverse ∧
        ∃ first, [1, 2].head? = some first ∧ prevOf (chainStore 2) first = some 0 :=
  ⟨(get_bounded_and_chained 0 (chainStore 2) 3).1,
    (get_bounded_and_chained 0 (chainStore 2) 3).2.1 [1, 2] (get_chain_store (by decide)).1 (by simp)⟩

end Results

end NeoFS.Relations
