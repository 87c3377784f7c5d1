/-
Settings by name.

A setting is found by its name in any case, and an option by its own spelling
only. No option is spelled like a setting, so options change nothing about the
settings that are read (`Settings.check_options`).
-/
import Mathlib.Data.List.Basic
import PlotDigitizer.Service.Request

namespace PlotDigitizer.Service.Settings

/-- The fields that are no options. -/
def withoutOptions (fields : List (Text × Value Float)) : List (Text × Value Float) :=
  fields.filter fun f => !isOption f

variable {fields : List (Text × Value Float)}

theorem chars?_of_isOption {f : Text × Value Float} (h : isOption f = true) :
    ∃ name ∈ options, f.1.chars? = some name.toList := by
  obtain ⟨name, hname, heq⟩ := List.any_eq_true.1 h
  exact ⟨name, hname, eq_of_beq heq ▸ Text.chars?_ofChars name.toList⟩

/-- No option is spelled like a setting. -/
theorem isSpelled_of_isOption {f : Text × Value Float} (h : isOption f = true) :
    ∀ name ∈ names, isSpelled name f = false := by
  obtain ⟨option, hoption, hchars⟩ := chars?_of_isOption h
  have hapart : ∀ option ∈ options, ∀ name ∈ names,
      (some (String.ofList (option.toList.map Char.toLower)) == some name) = false := by decide
  intro name hname
  rw [isSpelled, hchars]
  exact hapart option hoption name hname

theorem given_withoutOptions : given (withoutOptions fields) = given fields := by
  unfold given withoutOptions
  refine congrArg Value.record (List.filterMap_congr fun name hname => ?_)
  rw [List.find?_filter]
  refine congrArg (Option.map _) (congrArg (fields.find? ·) (funext fun f => ?_))
  cases hoption : isOption f with
  | true => simp [isSpelled_of_isOption hoption name hname]
  | false => simp

theorem unreadable_withoutOptions :
    ((withoutOptions fields).any fun f => f.1.chars?.isNone) = fields.any fun f => f.1.chars?.isNone := by
  rw [withoutOptions, List.any_filter]
  refine congrArg (fields.any ·) (funext fun f => ?_)
  cases hoption : isOption f with
  | true =>
    obtain ⟨name, -, hchars⟩ := chars?_of_isOption hoption
    rw [hchars]
    rfl
  | false => simp

/-- **Options change nothing about the settings that are read.** -/
theorem check_options : (check (withoutOptions fields)).toOption = (check fields).toOption := by
  have hothers : ((withoutOptions fields).filter fun f => !(isOption f || names.any (isSpelled · f)))
      = fields.filter fun f => !(isOption f || names.any (isSpelled · f)) := by
    rw [withoutOptions, List.filter_filter]
    refine congrArg (fields.filter ·) (funext fun f => ?_)
    cases isOption f <;> simp
  unfold check
  rw [unreadable_withoutOptions]
  cases fields.any fun f => f.1.chars?.isNone with
  | true => rfl
  | false => simp only [hothers, given_withoutOptions, Bool.false_eq_true, if_false]

end PlotDigitizer.Service.Settings
