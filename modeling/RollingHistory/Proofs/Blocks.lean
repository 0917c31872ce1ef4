import RollingHistory.Message.Rendering
import RollingHistory.Proofs.Joining

/-!
A rendered conversation, block by block.

The rendering is the stack of what its messages are rendered to by themselves
(`render_eq_stack`), and this is a block, or nothing if there is nothing to read in the message. So
two halves give the whole however they are cut (`render_append`), and so do any number of pieces
(`render_flatten`); each block stands in it between what is before the message and what is behind
it (`render_append_cons`). These laws leave no choice: only this rendering has them
(`Blockwise.eq_render`, `render_blockwise`).
-/

namespace RollingHistory.Message

variable {message : Message}

theorem filterMap_block? (messages : List Message) :
    messages.filterMap block? = (messages.filter (·.text ≠ "")).map block := by
  induction messages with
  | nil => rfl
  | cons message messages ih =>
    by_cases silent : message.text = ""
    · rw [List.filterMap_cons_none (block?_of_silent silent), ih, List.filter_cons_of_neg]
      simp [silent]
    · rw [List.filterMap_cons_some (block?_of_spoken silent), ih, List.filter_cons_of_pos,
        List.map_cons]
      simp [silent]

/-- What cannot be read leaves no trace, and does not come between two blocks either. -/
theorem render_filter (messages : List Message) :
    render (messages.filter (·.text ≠ "")) = render messages := by
  rw [render, render, filterMap_block?, filterMap_block?, List.filter_filter]
  simp only [Bool.and_self]

theorem render_singleton_of_silent (silent : message.text = "") : render [message] = "" := by
  rw [render, List.filterMap_cons_none (block?_of_silent silent)]
  rfl

theorem render_singleton_of_spoken (spoken : message.text ≠ "") :
    render [message] = message.block := by
  rw [render, List.filterMap_cons_some (block?_of_spoken spoken)]
  exact String.intercalate_singleton

theorem render_singleton_eq_empty_iff : render [message] = "" ↔ message.text = "" := by
  refine ⟨fun empty => Decidable.byContradiction fun spoken => ?_, render_singleton_of_silent⟩
  rw [render_singleton_of_spoken spoken] at empty
  exact message.block_ne_empty empty

/-- A conversation is rendered message by message. -/
theorem render_eq_stack (messages : List Message) :
    render messages = Text.stack (messages.map fun message => render [message]) := by
  -- the texts that the stack leaves out are those of the silent messages
  have spoken : (messages.map fun message => render [message]).filter (· ≠ "") =
      (messages.filter (·.text ≠ "")).map fun message => render [message] := by
    rw [List.filter_map]
    congr 2
    funext message
    simp [render_singleton_eq_empty_iff]
  have blocks : ((messages.filter (·.text ≠ "")).map fun message => render [message]) =
      (messages.filter (·.text ≠ "")).map block := by
    refine List.map_congr_left fun message member => render_singleton_of_spoken ?_
    simpa using (List.mem_filter.mp member).2
  rw [Text.stack, spoken, blocks, ← filterMap_block?, render]

/-- The rendering of one half comes under that of the other, unless one is empty. -/
theorem render_append (xs ys : List Message) :
    render (xs ++ ys) =
      if render xs = "" then render ys
      else if render ys = "" then render xs
      else render xs ++ "\n\n" ++ render ys := by
  rw [render_eq_stack xs, render_eq_stack ys, render_eq_stack (xs ++ ys), List.map_append]
  exact Text.stack_append ..

/-- So do those of any number of pieces. -/
theorem render_flatten (pieces : List (List Message)) :
    render pieces.flatten = Text.stack (pieces.map render) := by
  have each : pieces.map render =
      (pieces.map (List.map fun message => render [message])).map Text.stack := by
    rw [List.map_map]
    exact List.map_congr_left fun piece _ => render_eq_stack piece
  rw [render_eq_stack, List.map_flatten, Text.stack_flatten, ← each]

theorem render_eq_empty_iff {messages : List Message} :
    render messages = "" ↔ ∀ message ∈ messages, message.text = "" := by
  rw [render_eq_stack, Text.stack_eq_empty_iff, List.forall_mem_map]
  simp only [render_singleton_eq_empty_iff]

/-- A block stands between what is before its message and what is behind it. -/
theorem render_append_cons (before after : List Message) (spoken : message.text ≠ "") :
    render (before ++ message :: after) =
      (if render before = "" then "" else render before ++ "\n\n") ++ message.block ++
        (if render after = "" then "" else "\n\n" ++ render after) := by
  have here := render_singleton_of_spoken spoken
  have rest : render (message :: after) =
      message.block ++ (if render after = "" then "" else "\n\n" ++ render after) := by
    rw [← List.singleton_append, render_append, here, if_neg message.block_ne_empty]
    split
    · rw [String.append_empty]
    · rw [String.append_assoc]
  have inhabited : render (message :: after) ≠ "" := by
    rw [rest]
    simp [message.block_ne_empty]
  rw [render_append, if_neg inhabited, rest]
  split
  · rw [String.empty_append]
  · simp only [String.append_assoc]

/-- What makes a way to lay out conversations keep the blocks: none of them is lost, none runs into
another and none changes its place, wherever a conversation is cut. -/
structure Blockwise (layout : List Message → String) : Prop where
  /-- The texts of two halves come under each other, an empty line between them, unless one of them
  is empty. -/
  append : ∀ xs ys, layout (xs ++ ys) =
    if layout xs = "" then layout ys
    else if layout ys = "" then layout xs
    else layout xs ++ "\n\n" ++ layout ys
  /-- The text is empty only if nothing can be read in any message. -/
  eq_empty_iff : ∀ messages, layout messages = "" ↔ ∀ message ∈ messages, message.text = ""
  /-- Messages in which nothing can be read leave no trace. -/
  filter : ∀ messages : List Message, layout (messages.filter (·.text ≠ "")) = layout messages
  /-- Of any other message there is a block, with the label of its role and its text as it is. -/
  single : ∀ message : Message, message.text ≠ "" →
    layout [message] = message.role.label ++ ": " ++ message.text
  /-- Of any pieces the texts that are not empty, in order and an empty line between any two, are
  the text of the whole. -/
  flatten : ∀ pieces : List (List Message), layout pieces.flatten =
    "\n\n".intercalate ((pieces.map layout).filter (· ≠ ""))
  /-- A block stands as it is behind everything that is before its message, and before everything
  behind it, an empty line on either side. -/
  between : ∀ before (message : Message) after, message.text ≠ "" →
    layout (before ++ message :: after) =
      (if layout before = "" then "" else layout before ++ "\n\n") ++
        (message.role.label ++ ": " ++ message.text) ++
        (if layout after = "" then "" else "\n\n" ++ layout after)

/-- A conversation is its messages one after the other, and the laws say what each of them gives. -/
theorem Blockwise.eq_render {layout : List Message → String} (laws : Blockwise layout) :
    layout = render := by
  funext messages
  induction messages with
  | nil => exact (laws.eq_empty_iff []).mpr (List.forall_mem_nil _)
  | cons message messages ih =>
    have alone : layout [message] = render [message] := by
      by_cases silent : message.text = ""
      · rw [render_singleton_of_silent silent, laws.eq_empty_iff, List.forall_mem_singleton]
        exact silent
      · rw [render_singleton_of_spoken silent]
        exact laws.single message silent
    rw [← List.singleton_append, laws.append, render_append, alone, ih]

/-- Conversations are rendered block by block, and there is no other way to do that. -/
theorem render_blockwise : Blockwise render ∧ ∀ layout, Blockwise layout → layout = render where
  left :=
    { append := render_append
      eq_empty_iff := fun _ => render_eq_empty_iff
      filter := render_filter
      single := fun _ spoken => render_singleton_of_spoken spoken
      flatten := render_flatten
      between := fun before _ after spoken => render_append_cons before after spoken }
  right := fun _ laws => laws.eq_render

/-- Two blocks with silent messages around and between them; the first has no name to show. -/
example : render [.user "", ⟨.other "", .plain "a"⟩, .user "", ⟨.tool, .parts [.image "" ""]⟩,
    ⟨.other "cRITIC", .parts [.text "b", .image "" "", .text "c"]⟩, .assistant ""] =
      ": a\n\nCritic: b c" := by decide +kernel

end RollingHistory.Message
