import PairLoop.Kernel
import PairLoop.Proofs.Text.Token

/-!
The kernel's tokens, and filling them in part by part. A code point that no token has divides a
text, whatever is put in for the tokens, and a text without the capitals that tokens begin with
stays as it is.
-/

namespace PairLoop.Kernel

open Text (Token)

def kernelToken : Token := ⟨'K', "ERNEL".toList, by decide, by decide⟩

def gradientToken : Token := ⟨'G', "RADIENT".toList, by decide, by decide⟩

theorem fill_eq (kernel : Kernel) (config : Config) (code : List Char) :
    kernel.fill config code =
      kernelToken.replace (kernel.method config.kernelMethod)
        (gradientToken.replace (kernel.method config.gradientMethod) code) :=
  rfl

/-- Whether no token has a code point. -/
def separates (char : Char) : Bool :=
  decide (char ∉ kernelToken.text) && decide (char ∉ gradientToken.text)

/-- A text that divides others: there is something of it, and no token has any of that. -/
def Separator (text : String) : Prop := text ≠ "" ∧ text.toList.all separates = true

instance (text : String) : Decidable (Separator text) := inferInstanceAs (Decidable (_ ∧ _))

/-- A text without the code points that tokens begin with. -/
def Plain (text : List Char) : Prop := kernelToken.head ∉ text ∧ gradientToken.head ∉ text

instance (text : List Char) : Decidable (Plain text) := inferInstanceAs (Decidable (_ ∧ _))

section Filling

variable (kernel : Kernel) (config : Config)

theorem fill_of_plain (text : List Char) (plain : Plain text) : kernel.fill config text = text := by
  rw [fill_eq, gradientToken.replace_of_absent _ text plain.2,
    kernelToken.replace_of_absent _ text plain.1]

theorem fill_separator (first rest : List Char) (char : Char)
    (foreign : separates char = true) :
    kernel.fill config (first ++ char :: rest) =
      kernel.fill config first ++ char :: kernel.fill config rest := by
  rw [separates, Bool.and_eq_true, decide_eq_true_iff, decide_eq_true_iff] at foreign
  rw [fill_eq, fill_eq, fill_eq, gradientToken.replace_separator _ first rest char foreign.2,
    kernelToken.replace_separator _ _ _ char foreign.1]

theorem fill_leading (separator rest : List Char)
    (foreign : separator.all separates = true) :
    kernel.fill config (separator ++ rest) = separator ++ kernel.fill config rest := by
  induction separator with
  | nil => rfl
  | cons char separator induction =>
    rw [List.all_cons, Bool.and_eq_true] at foreign
    have divided := kernel.fill_separator config [] (separator ++ rest) char foreign.1
    rw [induction foreign.2] at divided
    exact divided

theorem fill_between (first separator rest : List Char) (present : separator ≠ [])
    (foreign : separator.all separates = true) :
    kernel.fill config (first ++ (separator ++ rest)) =
      kernel.fill config first ++ (separator ++ kernel.fill config rest) := by
  cases separator with
  | nil => exact absurd rfl present
  | cons char separator =>
    rw [List.all_cons, Bool.and_eq_true] at foreign
    rw [List.cons_append, kernel.fill_separator config first _ char foreign.1,
      kernel.fill_leading config separator rest foreign.2]
    rfl

/-- A text without the code points that tokens begin with stays as it is. -/
theorem substitute_of_plain (text : String) (plain : Plain text.toList) :
    substitute (some kernel) config text = text := by
  have filled := kernel.fill_of_plain config text.toList plain
  rw [substitute, fillOptional, filled, String.ofList_toList]

variable (separator : String) (divides : Separator separator)

include divides

/-- No replacement reaches over a separator. -/
theorem substitute_between (first rest : String) :
    substitute (some kernel) config (first ++ separator ++ rest) =
      substitute (some kernel) config first ++ separator ++
        substitute (some kernel) config rest := by
  have filled := kernel.fill_between config first.toList separator.toList rest.toList
    (mt String.toList_eq_nil_iff.1 divides.1) divides.2
  apply String.toList_inj.1
  simp only [substitute, fillOptional, String.toList_append, String.toList_ofList,
    List.append_assoc]
  exact filled

theorem substitute_trailing (first : String) :
    substitute (some kernel) config (first ++ separator) =
      substitute (some kernel) config first ++ separator := by
  have divided := kernel.substitute_between config separator divides first ""
  rw [String.append_empty] at divided
  rw [divided]
  exact String.append_empty

theorem substitute_intercalate (parts : List String) :
    substitute (some kernel) config (separator.intercalate parts) =
      separator.intercalate (parts.map (substitute (some kernel) config)) := by
  induction parts with
  | nil => rfl
  | cons part rest induction =>
    cases rest with
    | nil => simp only [List.map_cons, List.map_nil, String.intercalate_singleton]
    | cons next rest =>
      rw [String.intercalate_cons_cons,
        kernel.substitute_between config separator divides, induction]
      simp only [List.map_cons, String.intercalate_cons_cons]

end Filling

end PairLoop.Kernel
