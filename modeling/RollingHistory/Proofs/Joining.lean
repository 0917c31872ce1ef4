/-!
Texts put together.

Joined by a separator, texts begin with the first of them (`prefix_intercalate`), and they are
empty only if there is nothing to join (`intercalate_eq_empty_iff`). In a stack the separator is an
empty line, and empty texts take no room: of two stacks one comes under the other
(`stack_append`), and stacks can be stacked again (`stack_flatten`).
-/

namespace RollingHistory.Text

/-! ## Joined texts -/

theorem prefix_intercalate (separator head : String) (rest : List String) :
    head.toList <+: (separator.intercalate (head :: rest)).toList := by
  cases rest with
  | nil => simp only [String.intercalate_singleton, List.prefix_rfl]
  | cons next rest =>
    rw [String.intercalate_cons_cons, String.toList_append, String.toList_append, List.append_assoc]
    exact List.prefix_append ..

theorem intercalate_ne_empty {separator head : String} (h : head ≠ "") (rest : List String) :
    separator.intercalate (head :: rest) ≠ "" := by
  intro empty
  have front := prefix_intercalate separator head rest
  rw [empty, String.toList_empty, List.prefix_nil, String.toList_eq_nil_iff] at front
  exact h front

/-- With a separator in it, a joined text is empty only if there is nothing to join. -/
theorem intercalate_eq_empty_iff {separator : String} (h : separator ≠ "") {texts : List String} :
    separator.intercalate texts = "" ↔ texts = [] ∨ texts = [""] := by
  cases texts with
  | nil => simp
  | cons text rest =>
    cases rest with
    | nil => simp
    | cons next rest => simp [h]

/-! ## Stacks -/

/-- Texts under each other, an empty line between any two and the empty texts left out. -/
def stack (texts : List String) : String := "\n\n".intercalate (texts.filter (· ≠ ""))

variable {texts : List String}

theorem stack_eq_empty_iff_filter : stack texts = "" ↔ texts.filter (· ≠ "") = [] := by
  have inhabited : texts.filter (· ≠ "") ≠ [""] := by
    intro only
    have member : "" ∈ texts.filter (· ≠ "") := by
      rw [only]
      exact List.mem_singleton_self ""
    exact of_decide_eq_true (List.mem_filter.mp member).2 rfl
  rw [stack, intercalate_eq_empty_iff (by decide), or_iff_left inhabited]

theorem stack_eq_empty_iff : stack texts = "" ↔ ∀ text ∈ texts, text = "" := by
  rw [stack_eq_empty_iff_filter, List.filter_eq_nil_iff]
  simp only [decide_eq_true_eq, Decidable.not_not]

theorem stack_singleton (text : String) : stack [text] = text := by
  by_cases empty : text = ""
  · rw [empty]
    rfl
  · have kept : [text].filter (· ≠ "") = [text] := List.filter_cons_of_pos (decide_eq_true empty)
    rw [stack, kept, String.intercalate_singleton]

/-- Of two stacks one comes under the other, unless one is empty. -/
theorem stack_append (as bs : List String) :
    stack (as ++ bs) =
      if stack as = "" then stack bs
      else if stack bs = "" then stack as
      else stack as ++ "\n\n" ++ stack bs := by
  have whole : stack (as ++ bs) =
      "\n\n".intercalate (as.filter (· ≠ "") ++ bs.filter (· ≠ "")) := by
    rw [stack, List.filter_append]
  split
  · rename_i none
    rw [whole, stack_eq_empty_iff_filter.mp none, List.nil_append, ← stack]
  · rename_i some
    split
    · rename_i none
      rw [whole, stack_eq_empty_iff_filter.mp none, List.append_nil, ← stack]
    · rename_i more
      exact whole.trans (String.intercalate_append_of_ne_nil
        (mt stack_eq_empty_iff_filter.mpr some) (mt stack_eq_empty_iff_filter.mpr more))

/-- It makes no difference which texts were stacked before. -/
theorem stack_flatten (pieces : List (List String)) :
    stack pieces.flatten = stack (pieces.map stack) := by
  induction pieces with
  | nil => rfl
  | cons piece pieces ih =>
    calc stack (piece ++ pieces.flatten)
      _ = stack ([stack piece] ++ pieces.map stack) := by
        rw [stack_append, stack_append, stack_singleton, ih]
      _ = stack (stack piece :: pieces.map stack) := rfl

end RollingHistory.Text
