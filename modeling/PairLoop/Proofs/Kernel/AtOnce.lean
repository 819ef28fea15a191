import PairLoop.Proofs.Kernel.WholeWords
import PairLoop.Proofs.Text.AtOnce

/-!
Filling in both tokens of the kernel at once. The kernel's token is filled in after the gradient's,
so a call of the gradient that has just come in is read for it too. This shows where the token is
found in the call or across one of its ends, and nowhere else.
-/

namespace PairLoop.Kernel

open Text (Token replaceEach)

/-- Puts the calls in for both tokens in one pass over the code, so that no call is read again. -/
def fillAtOnce (kernel : Kernel) (config : Config) (code : List Char) : List Char :=
  replaceEach
    [(Name.gradientToken.toList, kernel.method config.gradientMethod),
     (Name.kernelToken.toList, kernel.method config.kernelMethod)] code

/-- Fills in both tokens of a string at once; without a kernel they stay as they are. -/
def substituteAtOnce (kernel : Option Kernel) (config : Config) (code : String) : String :=
  match kernel with
  | none => code
  | some kernel => String.ofList (kernel.fillAtOnce config code.toList)

/-- The calls of the gradient bring in no occurrence of the kernel's token. -/
def Undisturbed (kernel : Kernel) (config : Config) (code : List Char) : Prop :=
  kernelToken.occurrences
      (gradientToken.replace (kernel.method config.gradientMethod) code) =
    kernelToken.occurrences code

instance (kernel : Kernel) (config : Config) (code : List Char) :
    Decidable (kernel.Undisturbed config code) := inferInstanceAs (Decidable (_ = _))

theorem fill_eq_fill_at_once_iff (kernel : Kernel) (config : Config) (code : List Char) :
    kernel.fill config code = kernel.fillAtOnce config code ↔ kernel.Undisturbed config code :=
  kernelToken.replace_replace_eq_both_iff gradientToken tokens_separate
    (kernel.method config.kernelMethod) (kernel.method config.gradientMethod) '.' (by decide)
    (by decide) (kernel.stop_mem_method _) code

/-- No code is disturbed exactly if the kernel's token can neither stand in a call of the gradient
nor go on over one of its ends. -/
theorem undisturbed_iff_inert (kernel : Kernel) (config : Config) :
    (∀ code, kernel.Undisturbed config code) ↔
      kernelToken.Inert (kernel.method config.gradientMethod) := by
  constructor
  · exact kernelToken.inert_of_occurrences gradientToken tokens_separate _
  · intro inert code
    exact kernelToken.occurrences_replace_of_inert gradientToken tokens_separate _ '.' (by decide)
      (kernel.stop_mem_method _) inert code

/-- Filling in the tokens one after the other does the same as filling them in at once exactly if
the calls of the gradient bring in no occurrence of the kernel's token, and for every code exactly
if they never can. -/
theorem substitute_eq_at_once_iff (kernel : Option Kernel) (config : Config) :
    (∀ code, substitute kernel config code = substituteAtOnce kernel config code ↔
      ∀ bound ∈ kernel, bound.Undisturbed config code.toList) ∧
    ((∀ code, substitute kernel config code = substituteAtOnce kernel config code) ↔
      ∀ bound ∈ kernel, kernelToken.Inert (bound.method config.gradientMethod)) := by
  cases kernel with
  | none => simp [substitute, substituteAtOnce, fillOptional]
  | some kernel =>
    have texts : ∀ code, substitute (some kernel) config code =
        substituteAtOnce (some kernel) config code ↔ kernel.Undisturbed config code.toList := by
      intro code
      rw [← fill_eq_fill_at_once_iff]
      exact String.ofList_inj
    simp only [texts, Option.mem_def, Option.some.injEq, forall_eq', implies_true, true_and]
    rw [← undisturbed_iff_inert]
    constructor
    · intro undisturbed code
      have strings := undisturbed (String.ofList code)
      rw [String.toList_ofList] at strings
      exact strings
    · intro undisturbed code
      exact undisturbed code.toList

/-- The name of the kernel object is rewritten in the call that has just come in. -/
theorem call_filled_in_again :
    substituteAtOnce (some ⟨"self.KERNEL"⟩) .standard "GRADIENT(XIJ)" =
        "self.KERNEL.gradient(XIJ)" ∧
      substitute (some ⟨"self.KERNEL"⟩) .standard "GRADIENT(XIJ)" =
        "self.self.KERNEL.kernel.gradient(XIJ)" := by
  decide +kernel

end PairLoop.Kernel
