import HttpRouting.Action
import Mathlib.Logic.Basic

/-!
# The arguments of handlers

A call by position hands its arguments to the parameters from left to right.
Counting the parameters by position selects the longest beginning of the two
arguments that can be bound, if any beginning can be; otherwise the call fails
before the handler runs.
-/

namespace HttpRouting

namespace Signature

/--
A call with so many arguments, all given by position, can be bound.  A
parameter by position takes the next argument, or its default when none is
left; a variadic one takes any number of them; no other takes one.
-/
inductive Binds : Signature → Nat → Prop
  | done : Binds [] 0
  | given {p : Parameter} {rest : Signature} {count : Nat} :
      p.kind.isPositional = true → Binds rest count → Binds (p :: rest) (count + 1)
  | omitted {p : Parameter} {rest : Signature} :
      p.kind.isPositional = true → p.hasDefault = true → Binds rest 0 → Binds (p :: rest) 0
  | gathered {p : Parameter} {rest : Signature} {count : Nat} (more : Nat) :
      p.kind = .variadic → Binds rest count → Binds (p :: rest) (count + more)
  | keyword {p : Parameter} {rest : Signature} {count : Nat} :
      p.kind = .keywordOnly → p.hasDefault = true → Binds rest count → Binds (p :: rest) count
  | keywords {p : Parameter} {rest : Signature} {count : Nat} :
      p.kind = .variadicKeyword → Binds rest count → Binds (p :: rest) count

variable {s rest : Signature} {p : Parameter} {count : Nat}

theorem admits_iff : s.admits count = true ↔
    (s.isVariadic = true ∨ count ≤ s.positionals.length) ∧
      (∀ p ∈ s.positionals.drop count, p.hasDefault = true) ∧
      ∀ p ∈ s, p.kind = .keywordOnly → p.hasDefault = true := by
  simp only [admits, Bool.and_eq_true, Bool.or_eq_true, decide_eq_true_eq, List.all_eq_true,
    bne_iff_ne, and_assoc, ne_eq, ← Decidable.imp_iff_not_or]

/-! ## One parameter more -/

theorem positionals_cons_of_isPositional (h : p.kind.isPositional = true) :
    positionals (p :: rest) = p :: positionals rest :=
  List.filter_cons_of_pos h

theorem positionals_cons_of_not (h : p.kind.isPositional = false) :
    positionals (p :: rest) = positionals rest :=
  List.filter_cons_of_neg (by simp [h])

theorem isVariadic_cons : isVariadic (p :: rest) = true ↔ p.kind = .variadic ∨ isVariadic rest = true := by
  simp [isVariadic]

theorem admits_cons_given (h : p.kind.isPositional = true) :
    admits (p :: rest) (count + 1) = true ↔ rest.admits count = true := by
  have hkind : p.kind ≠ .variadic ∧ p.kind ≠ .keywordOnly := by
    constructor <;> intro heq <;> simp [heq, ParameterKind.isPositional] at h
  rw [admits_iff, admits_iff, isVariadic_cons, positionals_cons_of_isPositional h,
    List.forall_mem_cons, List.drop_succ_cons, List.length_cons]
  simp [hkind]

theorem admits_cons_omitted (h : p.kind.isPositional = true) :
    admits (p :: rest) 0 = true ↔ p.hasDefault = true ∧ rest.admits 0 = true := by
  have hkind : p.kind ≠ .keywordOnly := by
    intro heq
    simp [heq, ParameterKind.isPositional] at h
  rw [admits_iff, admits_iff, positionals_cons_of_isPositional h, List.forall_mem_cons,
    List.drop_zero, List.drop_zero, List.forall_mem_cons]
  simp [hkind, and_assoc]

theorem admits_cons_keyword (h : p.kind = .keywordOnly) :
    admits (p :: rest) count = true ↔ p.hasDefault = true ∧ rest.admits count = true := by
  rw [admits_iff, admits_iff, isVariadic_cons, positionals_cons_of_not (by rw [h]; rfl),
    List.forall_mem_cons]
  simp only [h, reduceCtorEq, false_or, forall_const]
  exact ⟨fun ⟨hroom, hdefaults, hdefault, hkeywords⟩ => ⟨hdefault, hroom, hdefaults, hkeywords⟩,
    fun ⟨hdefault, hroom, hdefaults, hkeywords⟩ => ⟨hroom, hdefaults, hdefault, hkeywords⟩⟩

theorem admits_cons_keywords (h : p.kind = .variadicKeyword) :
    admits (p :: rest) count = true ↔ rest.admits count = true := by
  rw [admits_iff, admits_iff, isVariadic_cons, positionals_cons_of_not (by rw [h]; rfl),
    List.forall_mem_cons]
  simp [h]

theorem admits_of_le {more : Nat} (h : s.admits count = true) (hle : count ≤ more)
    (hroom : s.isVariadic = true ∨ more ≤ s.positionals.length) : s.admits more = true := by
  obtain ⟨-, hdefaults, hkeywords⟩ := admits_iff.mp h
  exact admits_iff.mpr ⟨hroom, fun p hp => hdefaults p (List.drop_subset_drop_left _ hle hp), hkeywords⟩

theorem admits_cons_gathered (h : p.kind = .variadic) :
    admits (p :: rest) count = true ↔ ∃ fewer ≤ count, rest.admits fewer = true := by
  rw [admits_iff, isVariadic_cons, positionals_cons_of_not (by rw [h]; rfl), List.forall_mem_cons]
  simp only [h, true_or, true_and, reduceCtorEq, false_implies]
  constructor
  · rintro ⟨hdefaults, hkeywords⟩
    -- What lies behind takes as many as it can, and the variadic parameter all others.
    by_cases hroom : count ≤ rest.positionals.length
    · exact ⟨count, Nat.le_refl count, admits_iff.mpr ⟨.inr hroom, hdefaults, hkeywords⟩⟩
    · refine ⟨rest.positionals.length, by omega, admits_iff.mpr ⟨.inr (Nat.le_refl _), ?_, hkeywords⟩⟩
      simp
  · rintro ⟨fewer, hle, hadmits⟩
    obtain ⟨-, hdefaults, hkeywords⟩ := admits_iff.mp hadmits
    exact ⟨fun p hp => hdefaults p (List.drop_subset_drop_left _ hle hp), hkeywords⟩

theorem binds_iff_admits : s.Binds count ↔ s.admits count = true := by
  constructor
  · intro h
    induction h with
    | done => rfl
    | given hkind _ ih => exact (admits_cons_given hkind).mpr ih
    | omitted hkind hdefault _ ih => exact (admits_cons_omitted hkind).mpr ⟨hdefault, ih⟩
    | gathered more hkind _ ih =>
        exact (admits_cons_gathered hkind).mpr ⟨_, Nat.le_add_right _ more, ih⟩
    | keyword hkind hdefault _ ih => exact (admits_cons_keyword hkind).mpr ⟨hdefault, ih⟩
    | keywords hkind _ ih => exact (admits_cons_keywords hkind).mpr ih
  · intro h
    induction s generalizing count with
    | nil =>
        obtain rfl : count = 0 := by simpa [admits, isVariadic, positionals] using h
        exact .done
    | cons p rest ih =>
        have hpositional (hkind : p.kind.isPositional = true) : Binds (p :: rest) count := by
          cases count with
          | zero =>
              obtain ⟨hdefault, hrest⟩ := (admits_cons_omitted hkind).mp h
              exact .omitted hkind hdefault (ih hrest)
          | succ count => exact .given hkind (ih ((admits_cons_given hkind).mp h))
        cases hkind : p.kind with
        | positionalOnly => exact hpositional (by rw [hkind]; rfl)
        | positional => exact hpositional (by rw [hkind]; rfl)
        | variadic =>
            obtain ⟨fewer, hle, hrest⟩ := (admits_cons_gathered hkind).mp h
            obtain ⟨more, rfl⟩ := Nat.exists_eq_add_of_le hle
            exact .gathered more hkind (ih hrest)
        | keywordOnly =>
            obtain ⟨hdefault, hrest⟩ := (admits_cons_keyword hkind).mp h
            exact .keyword hkind hdefault (ih hrest)
        | variadicKeyword => exact .keywords hkind (ih ((admits_cons_keywords hkind).mp h))

/-! ## Beginnings of the two arguments -/

/-- So many of the two arguments are the longest beginning of them that can be bound. -/
structure IsLongest (s : Signature) (count : Nat) : Prop where
  le_two : count ≤ 2
  binds : s.Binds count
  longest : ∀ other ≤ 2, s.Binds other → other ≤ count

/-- The number of arguments that the arity selects. -/
def selected (s : Signature) : Nat := min (s.arity.getD 2) 2

theorem selected_le_two : s.selected ≤ 2 := Nat.min_le_right _ _

theorem le_selected_of_binds (h : s.Binds count) (hle : count ≤ 2) :
    count ≤ s.selected ∧ s.Binds s.selected := by
  rw [binds_iff_admits] at h ⊢
  have hroom := (admits_iff.mp h).1
  cases hvariadic : s.isVariadic with
  | true =>
      have hselected : s.selected = 2 := by simp [selected, arity, hvariadic]
      rw [hselected]
      exact ⟨hle, admits_of_le h hle (.inl hvariadic)⟩
  | false =>
      have hselected : s.selected = min s.positionals.length 2 := by simp [selected, arity, hvariadic]
      have hlength := hroom.resolve_left (by simp [hvariadic])
      rw [hselected]
      exact ⟨by omega, admits_of_le h (by omega) (.inr (by omega))⟩

theorem isLongest_selected (h : s.Binds count) (hle : count ≤ 2) : s.IsLongest s.selected where
  le_two := selected_le_two
  binds := (le_selected_of_binds h hle).2
  longest := fun _ hother hbinds => (le_selected_of_binds hbinds hother).1

theorem IsLongest.eq_selected (h : s.IsLongest count) : count = s.selected :=
  have hselected := le_selected_of_binds h.binds h.le_two
  Nat.le_antisymm hselected.1 (h.longest _ selected_le_two hselected.2)

/-! ## Required parameters -/

def required (s : Signature) : List Parameter := s.positionals.filter fun p => !p.hasDefault

/-- Behind a parameter with a default, no parameter by position is without one. -/
def IsProper (s : Signature) : Prop :=
  s.positionals.Pairwise fun p q => p.hasDefault = true → q.hasDefault = true

theorem forall_drop_iff {parameters : List Parameter}
    (h : parameters.Pairwise fun p q => p.hasDefault = true → q.hasDefault = true) (count : Nat) :
    (∀ p ∈ parameters.drop count, p.hasDefault = true) ↔
      (parameters.filter fun p => !p.hasDefault).length ≤ count := by
  induction parameters generalizing count with
  | nil => simp
  | cons p rest ih =>
      rw [List.pairwise_cons] at h
      cases hdefault : p.hasDefault with
      | true =>
          have hall : ∀ q ∈ p :: rest, q.hasDefault = true :=
            List.forall_mem_cons.mpr ⟨hdefault, fun q hq => h.1 q hq hdefault⟩
          have hnone : (p :: rest).filter (fun q => !q.hasDefault) = [] :=
            List.filter_eq_nil_iff.mpr fun q hq => by simp [hall q hq]
          rw [hnone]
          exact ⟨fun _ => Nat.zero_le _, fun _ q hq => hall q (List.mem_of_mem_drop hq)⟩
      | false =>
          rw [List.filter_cons_of_pos (by simp [hdefault]), List.length_cons]
          cases count with
          | zero => simp [hdefault]
          | succ count => rw [List.drop_succ_cons, ih h.2, Nat.add_le_add_iff_right]

theorem exists_binds_iff : (∃ count ≤ 2, s.Binds count) ↔
    (∀ p ∈ s.positionals.drop 2, p.hasDefault = true) ∧
      ∀ p ∈ s, p.kind = .keywordOnly → p.hasDefault = true := by
  simp only [binds_iff_admits]
  constructor
  · rintro ⟨count, hle, hadmits⟩
    obtain ⟨-, hdefaults, hkeywords⟩ := admits_iff.mp hadmits
    exact ⟨fun p hp => hdefaults p (List.drop_subset_drop_left _ hle hp), hkeywords⟩
  · rintro ⟨hdefaults, hkeywords⟩
    by_cases hroom : 2 ≤ s.positionals.length
    · exact ⟨2, Nat.le_refl 2, admits_iff.mpr ⟨.inr hroom, hdefaults, hkeywords⟩⟩
    · exact ⟨s.positionals.length, by omega,
        admits_iff.mpr ⟨.inr (Nat.le_refl _), by simp, hkeywords⟩⟩

theorem forall_not_binds_iff (h : s.IsProper) : (∀ count ≤ 2, ¬ s.Binds count) ↔
    2 < s.required.length ∨ ∃ p ∈ s, p.kind = .keywordOnly ∧ p.hasDefault = false := by
  have hexists := (exists_binds_iff (s := s)).trans (and_congr_left' (forall_drop_iff h 2))
  rw [← not_iff_not, required]
  simpa using hexists

end Signature

namespace Callable

variable {f : Callable} {count : Nat}

theorem arguments_eq (hreadable : f.readable = true) (params : Params) (request : Request) :
    f.arguments params request = .take f.signature.selected params request := by
  simp only [arguments, arity, hreadable, if_true, Signature.selected, Arguments.take,
    Arguments.mk.injEq, Nat.min_assoc, Nat.min_self, true_and]
  constructor <;> exact if_congr (by omega) rfl rfl

theorem count_arguments (hreadable : f.readable = true) (params : Params) (request : Request) :
    (f.arguments params request).count = f.signature.selected := by
  rw [arguments_eq hreadable]
  exact Nat.min_eq_left Signature.selected_le_two

theorem arguments_of_isLongest (hreadable : f.readable = true) (h : f.signature.IsLongest count)
    (params : Params) (request : Request) :
    f.arguments params request = .take count params request ∧
      f.signature.admits (f.arguments params request).count = true := by
  obtain rfl := h.eq_selected
  rw [count_arguments hreadable]
  exact ⟨arguments_eq hreadable params request, Signature.binds_iff_admits.mp h.binds⟩

theorem admits_arguments_of_not_binds (hreadable : f.readable = true)
    (h : ∀ count ≤ 2, ¬ f.signature.Binds count) (params : Params) (request : Request) :
    f.signature.admits (f.arguments params request).count = false := by
  rw [count_arguments hreadable, ← Bool.not_eq_true, ← Signature.binds_iff_admits]
  exact h _ Signature.selected_le_two

/-- What comes of a call whose arguments are bound: what the body makes of them. -/
def answer (f : Callable) (args : Arguments) : Except Action.DispatchError Outcome :=
  (f.body args).mapError fun failure => .call (.raised failure)

theorem mapError_call_of_isLongest (hreadable : f.readable = true) (h : f.signature.IsLongest count)
    (params : Params) (request : Request) :
    (f.call (f.arguments params request)).mapError Action.DispatchError.call =
      f.answer (.take count params request) := by
  obtain ⟨harguments, hadmits⟩ := arguments_of_isLongest hreadable h params request
  rw [call, if_pos hadmits, harguments, answer]
  cases f.body (.take count params request) <;> rfl

theorem call_of_not_binds (hreadable : f.readable = true)
    (h : ∀ count ≤ 2, ¬ f.signature.Binds count) (params : Params) (request : Request) :
    f.call (f.arguments params request) = .error .arguments := by
  rw [call, admits_arguments_of_not_binds hreadable h]
  rfl

end Callable

namespace Action

theorem dispatch_method {c : Controller} {r : Receiver} {name : String} {f : Callable}
    (hreceiver : c.receiver? = some r) (hmethod : r.method? name = some f) (params : Params)
    (request : Request) : dispatch (.method c name) params request =
      ⟨none, (f.call (f.arguments params request)).mapError .call⟩ := by
  simp only [dispatch, dispatchMethod, hreceiver, hmethod]

/--
A handler is called with the longest beginning of the parameters and the
request that its signature can bind, on its own or as a method of what its
controller makes; if it can bind none, not even the empty one, the call fails
for its arguments and the body is not asked.  In a proper signature that is
due to a third required parameter by position or to a required one by keyword.
-/
theorem handler_gets_longest_beginning {f : Callable} (hreadable : f.readable = true) (params : Params)
    (request : Request) :
    ((∃ count ≤ 2, f.signature.Binds count) → ∃ count, f.signature.IsLongest count ∧
      (∀ label shown, dispatch (.direct ⟨label, shown, f⟩) params request =
        ⟨some ⟨label, .take count params request⟩, f.answer (.take count params request)⟩) ∧
      ∀ c r name, c.receiver? = some r → r.method? name = some f →
        dispatch (.method c name) params request = ⟨none, f.answer (.take count params request)⟩) ∧
    ((∀ count ≤ 2, ¬ f.signature.Binds count) →
      (∀ label shown, dispatch (.direct ⟨label, shown, f⟩) params request =
        ⟨none, .error (.call .arguments)⟩) ∧
      ∀ c r name, c.receiver? = some r → r.method? name = some f →
        dispatch (.method c name) params request = ⟨none, .error (.call .arguments)⟩) ∧
    (f.signature.IsProper → ((∀ count ≤ 2, ¬ f.signature.Binds count) ↔
      2 < f.signature.required.length ∨
        ∃ p ∈ f.signature, p.kind = .keywordOnly ∧ p.hasDefault = false)) := by
  refine ⟨fun ⟨count, hle, hbinds⟩ => ?_, fun hnone => ?_, Signature.forall_not_binds_iff⟩
  · have hlongest := Signature.isLongest_selected hbinds hle
    have hcall := Callable.mapError_call_of_isLongest hreadable hlongest params request
    refine ⟨_, hlongest, fun label shown => ?_, fun c r name hreceiver hmethod => ?_⟩
    · obtain ⟨harguments, hadmits⟩ :=
        Callable.arguments_of_isLongest hreadable hlongest params request
      rw [dispatch, hcall, if_pos hadmits, harguments]
    · rw [dispatch_method hreceiver hmethod, hcall]
  · have hcall := Callable.call_of_not_binds hreadable hnone params request
    refine ⟨fun label shown => ?_, fun c r name hreceiver hmethod => ?_⟩
    · rw [dispatch, hcall, Callable.admits_arguments_of_not_binds hreadable hnone]
      rfl
    · rw [dispatch_method hreceiver hmethod, hcall]
      rfl

/-- A default is filled in for want of a third argument, but not a required parameter. -/
theorem handler_gets_longest_beginning_counted :
    let request := Request.ofPath "posts" "get" ∅ ∅ []
    let count (s : Signature) : Callable := ⟨s, true, fun args => .ok (.value (.int args.count))⟩
    let two := count [⟨.positionalOnly, false⟩, ⟨.positional, false⟩, ⟨.positional, true⟩,
      ⟨.keywordOnly, true⟩]
    let three := count [⟨.positionalOnly, false⟩, ⟨.positional, false⟩, ⟨.positional, false⟩]
    two.readable = true ∧ three.readable = true ∧
      dispatch (.direct ⟨"two", "two", two⟩) ⟨∅⟩ request =
        ⟨some ⟨"two", ⟨2, some ⟨∅⟩, some request⟩⟩, .ok (.value (.int 2))⟩ ∧
      dispatch (.direct ⟨"three", "three", three⟩) ⟨∅⟩ request = ⟨none, .error (.call .arguments)⟩ := by
  intro request count two three
  refine ⟨rfl, rfl, ?_, ?_⟩
  · have hbinds : two.signature.Binds 2 := Signature.binds_iff_admits.mpr rfl
    obtain ⟨n, hlongest, hdirect, -⟩ :=
      (handler_gets_longest_beginning (f := two) rfl ⟨∅⟩ request).1 ⟨2, Nat.le_refl 2, hbinds⟩
    obtain rfl : n = 2 := Nat.le_antisymm hlongest.le_two (hlongest.longest 2 (Nat.le_refl 2) hbinds)
    exact hdirect "two" "two"
  · obtain ⟨-, hnone, hiff⟩ := handler_gets_longest_beginning (f := three) rfl ⟨∅⟩ request
    have hproper : three.signature.IsProper := by
      simp [Signature.IsProper, Signature.positionals, three, count, ParameterKind.isPositional]
    have hmany : 2 < three.signature.required.length := by decide
    obtain ⟨hdirect, -⟩ := hnone ((hiff hproper).mpr (.inl hmany))
    exact hdirect "three" "three"

end Action

end HttpRouting
