import Mathlib.Data.List.Pairwise
import Mathlib.Data.Set.Basic
import NeoFS.Lib.Except
import NeoFS.Session.Token

set_option autoImplicit false

/- What `Validate` guarantees of a delegation chain: each delegated context is covered by a
   context of its origin, so that a token authorizes no (verb, container) its origin does not,
   and the root of a valid chain authorizes all that any token of it does. -/
namespace NeoFS.Session

open Lib.Except

theorem find_unauthorized_verb_none {required available : List Verb}
    (none : findUnauthorizedVerb required available = none) : ∀ verb ∈ required, verb ∈ available := by
  induction available generalizing required with
  | nil =>
      cases required with
      | nil => simp
      | cons verb required => cases none
  | cons other available ih =>
      cases required with
      | nil => simp
      | cons verb required =>
          unfold findUnauthorizedVerb at none
          intro v mem
          split_ifs at none with same less
          · rcases List.mem_cons.mp mem with rfl | later
            · exact same ▸ List.mem_cons_self
            · exact List.mem_cons_of_mem _ (ih none v later)
          · exact List.mem_cons_of_mem _ (ih none v mem)

section Merge

-- What the merge is to return for `required` and `available`.
def MergeSpec (required available : List Verb) (result : Option Verb) : Prop :=
  (result = none ↔ ∀ v ∈ required, v ∈ available) ∧
    ∀ v, result = some v ↔ v ∈ required ∧ v ∉ available ∧ ∀ w ∈ required, w ∉ available → v ≤ w

theorem MergeSpec.congr {required available available' : List Verb} {result : Option Verb}
    (same : ∀ w ∈ required, w ∈ available ↔ w ∈ available') (spec : MergeSpec required available result) :
    MergeSpec required available' result := by
  refine ⟨spec.1.trans ⟨fun all w mem => (same w mem).mp (all w mem), fun all w mem => (same w mem).mpr (all w mem)⟩,
    fun v => (spec.2 v).trans ?_⟩
  constructor
  · rintro ⟨mem, missing, least⟩
    exact ⟨mem, fun found => missing ((same v mem).mpr found),
      fun w wMem wMissing => least w wMem fun found => wMissing ((same w wMem).mp found)⟩
  · rintro ⟨mem, missing, least⟩
    exact ⟨mem, fun found => missing ((same v mem).mp found),
      fun w wMem wMissing => least w wMem fun found => wMissing ((same w wMem).mpr found)⟩

theorem MergeSpec.cons_same {verb : Verb} {required available : List Verb} {result : Option Verb}
    (ascending : (verb :: required).Pairwise (· < ·)) (spec : MergeSpec required available result) :
    MergeSpec (verb :: required) (verb :: available) result := by
  have above : ∀ w ∈ required, w ≠ verb := fun w mem same =>
    absurd (List.rel_of_pairwise_cons ascending mem) (by rw [same, Int32.lt_iff_toInt_lt]; omega)
  have rest : ∀ w ∈ required, w ∈ available ↔ w ∈ verb :: available := fun w mem => by
    rw [List.mem_cons, or_iff_right (above w mem)]
  have spec' := spec.congr rest
  refine ⟨spec'.1.trans ?_, fun v => (spec'.2 v).trans ?_⟩
  · simp only [List.mem_cons, forall_eq_or_imp, true_or, true_and]
  · constructor
    · rintro ⟨mem, missing, least⟩
      refine ⟨List.mem_cons_of_mem _ mem, missing, fun w wMem wMissing => ?_⟩
      rcases List.mem_cons.mp wMem with rfl | later
      · exact absurd List.mem_cons_self wMissing
      · exact least w later wMissing
    · rintro ⟨mem, missing, least⟩
      rcases List.mem_cons.mp mem with rfl | later
      · exact absurd List.mem_cons_self missing
      · exact ⟨later, missing, fun w wMem wMissing => least w (List.mem_cons_of_mem _ wMem) wMissing⟩

theorem MergeSpec.head_missing {verb : Verb} {required available : List Verb}
    (ascending : (verb :: required).Pairwise (· < ·)) (missing : verb ∉ available) :
    MergeSpec (verb :: required) available (some verb) := by
  have least : ∀ w ∈ verb :: required, verb ≤ w := fun w mem => by
    rcases List.mem_cons.mp mem with rfl | later
    · exact Int32.le_iff_toInt_le.mpr (Int.le_refl _)
    · exact Int32.le_iff_toInt_le.mpr (Int.le_of_lt (Int32.lt_iff_toInt_lt.mp (List.rel_of_pairwise_cons ascending later)))
  refine ⟨⟨(fun none => nomatch none), fun all => absurd (all verb List.mem_cons_self) missing⟩, fun v => ⟨?_, ?_⟩⟩
  · rintro ⟨⟩
    exact ⟨List.mem_cons_self, missing, fun w wMem _ => least w wMem⟩
  · rintro ⟨mem, -, below⟩
    have atMost := Int32.le_iff_toInt_le.mp (below verb List.mem_cons_self missing)
    have atLeast := Int32.le_iff_toInt_le.mp (least v mem)
    exact congrArg some (Int32.toInt_inj.mp (by omega))

/-- On a strictly ascending `required` and an ascending `available`, the merge finds nothing
exactly when every required verb is available, and otherwise the least one that is not. The
induction follows the merge; an available verb below the required head is passed over, which
keeps which required verbs are available. -/
theorem findUnauthorizedVerb_returns_least_missing {required available : List Verb}
    (ascending : required.Pairwise (· < ·)) (sorted : available.Pairwise (· ≤ ·)) :
    (findUnauthorizedVerb required available = none ↔ ∀ v ∈ required, v ∈ available) ∧
      ∀ v, findUnauthorizedVerb required available = some v ↔
        v ∈ required ∧ v ∉ available ∧ ∀ w ∈ required, w ∉ available → v ≤ w := by
  show MergeSpec required available (findUnauthorizedVerb required available)
  fun_induction findUnauthorizedVerb required available with
  | case1 available => simp [MergeSpec]
  | case2 verb required => exact MergeSpec.head_missing ascending List.not_mem_nil
  | case3 required other available ih =>
      exact MergeSpec.cons_same ascending (ih (List.Pairwise.of_cons ascending) (List.Pairwise.of_cons sorted))
  | case4 verb required other available different less =>
      -- every available verb is at least `other`, which is above `verb`
      refine MergeSpec.head_missing ascending fun found => ?_
      rcases List.mem_cons.mp found with same | later
      · exact different same
      · have := Int32.le_iff_toInt_le.mp (List.rel_of_pairwise_cons sorted later)
        have := Int32.lt_iff_toInt_lt.mp less
        omega
  | case5 verb required other available different notLess ih =>
      -- `other` is below every required verb, so passing it over changes nothing
      have below : other.toInt < verb.toInt := by
        have := Int32.lt_iff_toInt_lt.not.mp notLess
        have := Int32.toInt_inj.not.mpr different
        omega
      refine (ih ascending (List.Pairwise.of_cons sorted)).congr fun w mem => ?_
      have atLeast : verb.toInt ≤ w.toInt := by
        rcases List.mem_cons.mp mem with rfl | later
        · exact Int.le_refl _
        · exact Int.le_of_lt (Int32.lt_iff_toInt_lt.mp (List.rel_of_pairwise_cons ascending later))
      have differs : w ≠ other := fun same => by rw [same] at atLeast; omega
      rw [List.mem_cons, or_iff_right differs]

theorem findUnauthorizedVerb_finds_head :
    ([Verb.objectPut, Verb.objectHead] : List Verb).Pairwise (· < ·) ∧
      ([Verb.objectPut, Verb.objectGet, Verb.objectSearch, Verb.objectSearch] : List Verb).Pairwise (· ≤ ·) ∧
      findUnauthorizedVerb [Verb.objectPut, Verb.objectHead]
          [Verb.objectPut, Verb.objectGet, Verb.objectSearch, Verb.objectSearch] = some Verb.objectHead :=
  ⟨by decide, by decide,
    ((@findUnauthorizedVerb_returns_least_missing [Verb.objectPut, Verb.objectHead]
      [Verb.objectPut, Verb.objectGet, Verb.objectSearch, Verb.objectSearch] (by decide) (by decide)).2 _).mpr
      ⟨by decide, by decide, fun w mem missing => by
        rcases List.mem_cons.mp mem with rfl | later
        · exact absurd (by decide) missing
        · rw [List.mem_singleton.mp later]
          decide⟩⟩

end Merge

theorem origin_verbs_some {wildcard : Option (List Verb)} {container : ContainerID} {origins : List Context}
    {verbs : List Verb} (found : originVerbs wildcard container origins = some verbs) :
    (∃ ctx ∈ origins, ctx.container = container ∧ ctx.verbs = verbs) ∨ wildcard = some verbs := by
  cases origins with
  | nil => exact .inr found
  | cons ctx rest =>
      by_cases same : container = ctx.container
      · simp only [originVerbs, if_pos same, Option.some.injEq] at found
        exact .inl ⟨ctx, List.mem_cons_self, same.symm, found⟩
      · simp only [originVerbs, if_neg same] at found
        exact .inr found

theorem wildcard_verbs_of_some {contexts : List Context} {verbs : List Verb}
    (found : wildcardVerbsOf contexts = some verbs) :
    ∃ ctx ∈ contexts, ctx.container.isZero = true ∧ ctx.verbs = verbs := by
  cases contexts with
  | nil => cases found
  | cons ctx rest =>
      by_cases zero : ctx.container.isZero = true
      · simp only [wildcardVerbsOf, if_pos zero, Option.some.injEq] at found
        exact ⟨ctx, List.mem_cons_self, zero, found⟩
      · simp [wildcardVerbsOf, zero] at found

def Covers (origin ctx : Context) : Prop :=
  (origin.container = ctx.container ∨ origin.container.isZero = true) ∧ ∀ verb ∈ ctx.verbs, verb ∈ origin.verbs

theorem check_delegated_covered {all : List Context} {wildcard : Option (List Verb)}
    (wild : ∀ verbs, wildcard = some verbs → ∃ w ∈ all, w.container.isZero = true ∧ w.verbs = verbs)
    {delegated : List Context} :
    ∀ {index : Nat} {origins : List Context}, origins ⊆ all →
      checkDelegated wildcard index origins delegated = .ok () → ∀ ctx ∈ delegated, ∃ o ∈ all, Covers o ctx := by
  induction delegated with
  | nil => simp
  | cons ctx rest ih =>
      intro index origins within run
      unfold checkDelegated at run
      dsimp only at run
      have passed : ∀ p : Context → Bool, origins.dropWhile p ⊆ all :=
        fun p _ mem => within (List.dropWhile_subset p mem)
      split at run
      · cases run
      · next verbs found =>
          split at run
          · cases run
          · next none =>
              have authorized := find_unauthorized_verb_none none
              intro c mem
              rcases List.mem_cons.mp mem with rfl | later
              · rcases origin_verbs_some found with ⟨o, mem', same, rfl⟩ | fromWildcard
                · exact ⟨o, passed _ mem', .inl same, authorized⟩
                · obtain ⟨w, mem', zero, rfl⟩ := wild verbs fromWildcard
                  exact ⟨w, mem', .inr zero, authorized⟩
              · exact ih (passed _) run c later

theorem validate_delegated_contexts_covered {x origin : Token} (run : validateDelegatedContexts x origin = .ok ()) :
    ∀ ctx ∈ x.contexts, ∃ o ∈ origin.contexts, Covers o ctx :=
  check_delegated_covered (fun _ => wildcard_verbs_of_some) (List.Subset.refl _) run

theorem assert_verb_of_covered {x origin : Token} (covered : ∀ ctx ∈ x.contexts, ∃ o ∈ origin.contexts, Covers o ctx)
    {verb : Verb} {container : ContainerID} (asserted : x.assertVerb verb container = true) :
    origin.assertVerb verb container = true := by
  simp only [Token.assertVerb, List.any_eq_true, Bool.and_eq_true, Bool.or_eq_true, beq_iff_eq,
    List.contains_iff_mem] at asserted ⊢
  obtain ⟨ctx, mem, place, listed⟩ := asserted
  obtain ⟨o, mem', covers, verbs⟩ := covered ctx mem
  refine ⟨o, mem', ?_, verbs verb listed⟩
  rcases covers with same | zero
  · exact same ▸ place
  · exact .inl zero

theorem assert_container_of_covered {x origin : Token} (covered : ∀ ctx ∈ x.contexts, ∃ o ∈ origin.contexts, Covers o ctx)
    {verb : Verb} {container : ContainerID} (asserted : x.assertContainer verb container = true) :
    origin.assertContainer verb container = true := by
  simp only [Token.assertContainer, Bool.and_eq_true] at asserted ⊢
  exact ⟨asserted.1, assert_verb_of_covered covered asserted.2⟩

section Walk

variable {resolver : NNSResolver}

theorem check_origin_delegated {depth : Nat} {x origin : Token} (run : checkOrigin resolver depth x origin = .ok ()) :
    validateDelegatedContexts x origin = .ok () := by
  obtain ⟨_, delegated, -⟩ := bind_ok run
  exact map_error_ok delegated

theorem validate_from_cons {depth : Nat} {x origin : Token} {rest : List Token}
    (run : validateFrom resolver depth x (origin :: rest) = .ok ()) :
    checkLevel depth x = .ok () ∧ checkOrigin resolver depth x origin = .ok () ∧
      validateFrom resolver (depth + 1) origin rest = .ok () := by
  rw [validateFrom] at run
  obtain ⟨_, level, run⟩ := bind_ok run
  obtain ⟨_, checked, run⟩ := bind_ok run
  exact ⟨level, checked, run⟩

end Walk

def Token.authority (x : Token) : Set (Verb × ContainerID) := {p | x.assertVerb p.1 p.2 = true}

def Narrowing (chain : List Token) : Prop := chain.Pairwise fun t u => t.authority ⊆ u.authority

theorem validate_from_narrowing {resolver : NNSResolver} {origins : List Token} :
    ∀ {depth : Nat} {x : Token}, validateFrom resolver depth x origins = .ok () → Narrowing (x :: origins) := by
  induction origins with
  | nil => intro _ _ _; exact List.pairwise_singleton _ _
  | cons origin rest ih =>
      intro depth x run
      obtain ⟨-, checked, later⟩ := validate_from_cons run
      have narrows : x.authority ⊆ origin.authority := fun _ asserted =>
        assert_verb_of_covered (validate_delegated_contexts_covered (check_origin_delegated checked)) asserted
      have below : Narrowing (origin :: rest) := ih later
      refine List.Pairwise.cons (fun t mem => ?_) below
      rcases List.mem_cons.mp mem with rfl | deeper
      · exact narrows
      · exact narrows.trans (List.rel_of_pairwise_cons below deeper)

theorem validate_narrowing {x : Token} {origins : List Token} {resolver : Option NNSResolver}
    (valid : x.validate origins resolver = .ok ()) : Narrowing (x :: origins) := by
  cases resolver with
  | none => cases valid
  | some resolver => exact validate_from_narrowing valid

theorem validate_covered {x origin : Token} {rest : List Token} {resolver : Option NNSResolver}
    (valid : x.validate (origin :: rest) resolver = .ok ()) : ∀ ctx ∈ x.contexts, ∃ o ∈ origin.contexts, Covers o ctx := by
  cases resolver with
  | none => cases valid
  | some resolver => exact validate_delegated_contexts_covered (check_origin_delegated (validate_from_cons valid).2.1)

theorem Narrowing.root {chain : List Token} (narrowing : Narrowing chain) {t : Token} (mem : t ∈ chain) :
    t.authority ⊆ (chain.getLast (List.ne_nil_of_mem mem)).authority :=
  narrowing.rel_getLast_of_rel_getLast_getLast mem subset_rfl

theorem validate_never_widens (x : Token) (origins : List Token) (resolver : Option NNSResolver)
    (valid : x.validate origins resolver = .ok ()) (verb : Verb) (container : ContainerID) :
    (∀ origin rest, origins = origin :: rest →
      (x.assertVerb verb container = true → origin.assertVerb verb container = true) ∧
        (x.assertContainer verb container = true → origin.assertContainer verb container = true)) ∧
    ∀ t ∈ x :: origins,
      (t.assertVerb verb container = true →
        ((x :: origins).getLast (List.cons_ne_nil x origins)).assertVerb verb container = true) ∧
      (t.assertContainer verb container = true →
        ((x :: origins).getLast (List.cons_ne_nil x origins)).assertContainer verb container = true) := by
  refine ⟨fun origin rest chain => ?_, fun t mem => ?_⟩
  · subst chain
    have covered := validate_covered valid
    exact ⟨assert_verb_of_covered covered, assert_container_of_covered covered⟩
  · have root : t.authority ⊆ ((x :: origins).getLast (List.cons_ne_nil x origins)).authority :=
      (validate_narrowing valid).root mem
    have root_asserts : t.assertVerb verb container = true →
        ((x :: origins).getLast (List.cons_ne_nil x origins)).assertVerb verb container = true :=
      fun asserted => root (show (verb, container) ∈ t.authority from asserted)
    refine ⟨root_asserts, fun asserted => ?_⟩
    simp only [Token.assertContainer, Bool.and_eq_true] at asserted ⊢
    exact ⟨asserted.1, root_asserts asserted.2⟩

-- A root token of a wildcard context for OBJECT_PUT and OBJECT_GET, and a token its subject
-- issued from it for OBJECT_GET in one container.
def rootIssuer : UserID := ⟨0x35 :: List.replicate 24 1, by simp⟩
def rootSubject : UserID := ⟨0x35 :: List.replicate 24 2, by simp⟩
def someContainer : ContainerID := ⟨List.replicate 32 7, by simp⟩

def rootToken : Token :=
  ⟨⟨100, 100, 200⟩, 0, [], rootIssuer, [⟨rootSubject, ""⟩], [⟨ContainerID.zero, [1, 2]⟩], false, true⟩

def delegatedToken : Token :=
  ⟨⟨150, 150, 180⟩, 0, [], rootSubject, [⟨rootIssuer, ""⟩], [⟨someContainer, [2]⟩], false, true⟩

def noNames : NNSResolver := ⟨fun _ _ => .ok false⟩

theorem delegated_token_never_widens :
    delegatedToken.validate [rootToken] (some noNames) = .ok () ∧
      ((∀ origin rest, [rootToken] = origin :: rest →
        (delegatedToken.assertVerb 2 someContainer = true → origin.assertVerb 2 someContainer = true) ∧
          (delegatedToken.assertContainer 2 someContainer = true → origin.assertContainer 2 someContainer = true)) ∧
      ∀ t ∈ [delegatedToken, rootToken],
        (t.assertVerb 2 someContainer = true →
          ([delegatedToken, rootToken].getLast (List.cons_ne_nil _ _)).assertVerb 2 someContainer = true) ∧
        (t.assertContainer 2 someContainer = true →
          ([delegatedToken, rootToken].getLast (List.cons_ne_nil _ _)).assertContainer 2 someContainer = true)) :=
  ⟨by decide, validate_never_widens delegatedToken [rootToken] (some noNames) (by decide) 2 someContainer⟩

def Lifetime.Within (inner outer : Lifetime) : Prop := outer.nbf ≤ inner.nbf ∧ inner.exp ≤ outer.exp

theorem Lifetime.Within.trans {a b c : Lifetime} (ab : a.Within b) (bc : b.Within c) : a.Within c :=
  ⟨bc.1.trans ab.1, ab.2.trans bc.2⟩

theorem check_origin_lifetime {resolver : NNSResolver} {depth : Nat} {x origin : Token}
    (run : checkOrigin resolver depth x origin = .ok ()) : x.lifetime.Within origin.lifetime := by
  unfold checkOrigin at run
  obtain ⟨_, -, run⟩ := bind_ok run
  obtain ⟨found, -, run⟩ := bind_ok run
  dsimp only at run
  cases found with
  | false => cases run
  | true =>
      rw [if_neg (by decide)] at run
      have narrow := guard_ok run
      simp only [Bool.or_eq_true, decide_eq_true_eq, not_or, not_lt] at narrow
      exact ⟨narrow.1, narrow.2⟩

theorem validate_from_within {resolver : NNSResolver} {origins : List Token} :
    ∀ {depth : Nat} {x : Token}, validateFrom resolver depth x origins = .ok () →
      (x :: origins).Pairwise fun t u => t.lifetime.Within u.lifetime := by
  induction origins with
  | nil => intro _ _ _; exact List.pairwise_singleton _ _
  | cons origin rest ih =>
      intro depth x run
      obtain ⟨-, checked, later⟩ := validate_from_cons run
      have within := check_origin_lifetime checked
      have below := ih later
      refine List.Pairwise.cons (fun t mem => ?_) below
      rcases List.mem_cons.mp mem with rfl | deeper
      · exact within
      · exact within.trans (List.rel_of_pairwise_cons below deeper)

theorem valid_at_of_within {inner outer : Lifetime} (within : inner.Within outer) {t : Time}
    (valid : inner.validAt t = true) (issued : outer.iat ≤ t) : outer.validAt t = true := by
  simp only [Lifetime.validAt, Bool.and_eq_true, Bool.not_eq_true', decide_eq_false_iff_not, not_lt] at valid ⊢
  exact ⟨⟨issued, valid.1.2.trans within.2⟩, within.1.trans valid.2⟩

theorem validate_origins_valid_at {x : Token} {origins : List Token} {resolver : Option NNSResolver}
    (valid : x.validate origins resolver = .ok ()) {t : Time} (now : x.lifetime.validAt t = true) :
    ∀ o ∈ origins, o.lifetime.iat ≤ t → o.lifetime.validAt t = true := by
  cases resolver with
  | none => cases valid
  | some resolver =>
      intro o mem issued
      have within := List.rel_of_pairwise_cons (validate_from_within valid) mem
      exact valid_at_of_within within now issued

-- Validate compares only nbf and exp with the origin: an origin issued after the delegated
-- token starts is not valid in between, where the delegated token is.
def userOne : UserID := ⟨List.replicate 24 0 ++ [1], rfl⟩
def userTwo : UserID := ⟨List.replicate 24 0 ++ [2], rfl⟩

def issuedLater : Token :=
  ⟨⟨100, 0, 1000⟩, 0, [], userOne, [⟨userTwo, ""⟩], [⟨ContainerID.zero, [Verb.objectGet]⟩], false, true⟩
def delegatedEarly : Token :=
  ⟨⟨50, 50, 500⟩, 0, [], userTwo, [⟨userOne, ""⟩], [⟨ContainerID.zero, [Verb.objectGet]⟩], false, true⟩

theorem validate_origin_not_yet_issued :
    delegatedEarly.validate [issuedLater] (some ⟨fun _ _ => .ok false⟩) = .ok () ∧
      delegatedEarly.lifetime.validAt 60 = true ∧ issuedLater.lifetime.validAt 60 = false := by
  decide
end NeoFS.Session
