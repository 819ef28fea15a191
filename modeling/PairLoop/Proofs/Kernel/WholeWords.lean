import PairLoop.Proofs.Kernel.Tokens
import PairLoop.Proofs.Text.Rewriting

/-!
When the kernel's tokens are filled in as names. The scan of a fragment, the test for tokens and
the list of variables know a token as a word by itself. Filling in goes by letters and reaches into
longer words, so the two agree exactly for texts in which no longer word contains a token.
-/

namespace PairLoop.Kernel

open Text (Token Standalone replaceWords)

theorem tokens_separate : Token.Separate kernelToken gradientToken := ⟨by decide, by decide⟩

/-- Every call has a full stop between the object and the method, and no token has one. -/
theorem stop_mem_method (kernel : Kernel) (name : String) : '.' ∈ kernel.method name :=
  List.mem_append_right _ List.mem_cons_self

/-- Fills in the words that are the gradient's token, and in the result those that are the
kernel's. -/
def fillWords (kernel : Kernel) (config : Config) (code : List Char) : List Char :=
  replaceWords Name.kernelToken.toList (kernel.method config.kernelMethod)
    (replaceWords Name.gradientToken.toList (kernel.method config.gradientMethod) code)

/-- Fills in the words of a string that are tokens; without a kernel they stay as they are. -/
def substituteWords (kernel : Option Kernel) (config : Config) (code : String) : String :=
  match kernel with
  | none => code
  | some kernel => String.ofList (kernel.fillWords config code.toList)

theorem fill_eq_fill_words_iff (kernel : Kernel) (config : Config) (code : List Char) :
    kernel.fill config code = kernel.fillWords config code ↔
      Standalone Name.gradientToken.toList code ∧ Standalone Name.kernelToken.toList code ∧
        (Name.gradientToken.toList <:+: code →
          Standalone Name.kernelToken.toList (kernel.method config.gradientMethod)) := by
  -- Every call that is put in is marked by its full stop.
  have passes := kernelToken.replace_replace_eq_alone_iff gradientToken tokens_separate
    (kernel.method config.kernelMethod) (kernel.method config.gradientMethod) '.' (by decide)
    (by decide) (kernel.stop_mem_method _) (kernel.stop_mem_method _) code
  refine passes.trans (and_congr_right fun standalone => ?_)
  rw [gradientToken.replace_eq_replace_alone _ code standalone,
    kernelToken.standalone_replace_alone_iff gradientToken tokens_separate,
    gradientToken.mem_words_iff code standalone]
  rfl

/-- Filling in takes the tokens for words exactly if both stand alone in the text and, where a call
of the gradient comes in, its text holds the kernel's token in no longer word. -/
theorem substitute_eq_words_iff (kernel : Option Kernel) (config : Config) (code : String) :
    substitute kernel config code = substituteWords kernel config code ↔
      ∀ bound ∈ kernel,
        Standalone Name.gradientToken.toList code.toList ∧
          Standalone Name.kernelToken.toList code.toList ∧
            (Name.gradientToken.toList <:+: code.toList →
              Standalone Name.kernelToken.toList (bound.method config.gradientMethod)) := by
  cases kernel with
  | none => simp [substitute, substituteWords, fillOptional]
  | some kernel =>
    have texts : substitute (some kernel) config code = substituteWords (some kernel) config code ↔
        kernel.fill config code.toList = kernel.fillWords config code.toList :=
      String.ofList_inj
    rw [texts, fill_eq_fill_words_iff]
    simp only [Option.mem_def, Option.some.injEq, forall_eq']

/-- The scan finds a variable in which the letters of a token are filled in nevertheless. -/
theorem variable_filled_in :
    Fragment.symbols "W = KERNEL_H" = .ok (NameSet.ofList ["KERNEL_H", "W"]) ∧
      Name.isKernelToken "KERNEL_H" = false ∧
        substituteWords (some ⟨"self.kernel"⟩) .standard "W = KERNEL_H" = "W = KERNEL_H" ∧
          substitute (some ⟨"self.kernel"⟩) .standard "W = KERNEL_H" =
            "W = self.kernel.kernel_H" := by
  decide +kernel

end PairLoop.Kernel
