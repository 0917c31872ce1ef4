import Mathlib.Data.List.Basic
import RollingHistory.Capability.Extractive
import RollingHistory.Proofs.Blocks
import RollingHistory.Proofs.Concatenation

/-!
The lines that a copying chat model keeps.

It keeps a line that holds a turn or is a bullet, and makes a bullet of it, so its own answers it
copies as they are (`bullets_of_isBullet`). As long as there are no carriage returns a text put
together from others has just their bullets (`bullets_intercalate`), and hence a request to
summarize has those of the conversation and a request to merge, behind the four of its own, those
of the two summaries (`conversationRequest_spec`, `mergeRequest_spec`). A conversation has none
exactly if nobody says anything (`bullets_render_eq_nil_iff`).
-/

namespace RollingHistory

/-! ## Lines -/

namespace Text

/-- The lines of a text. -/
def lines (text : String) : List String := (charLines text.toList).map String.ofList

variable {cs line : List Char}

@[simp] theorem charLines_nil : charLines [] = [] := by simp [charLines]

theorem charLines_eq_nil_iff : charLines cs = [] ↔ cs = [] := by
  constructor
  · intro none
    cases cs with
    | nil => rfl
    | cons c cs =>
      unfold charLines at none
      split at none
      case h_4 => cases h : charLines cs <;> simp_all [extendFirst]
      all_goals simp_all
  · rintro rfl
    exact charLines_nil

theorem charLines_of_unbroken (unbroken : ∀ c ∈ line, c ≠ '\r' ∧ c ≠ '\n') (some : line ≠ []) :
    charLines line = [line] := by
  induction line with
  | nil => exact absurd rfl some
  | cons c line ih =>
    obtain ⟨⟨hr, hn⟩, unbroken⟩ := List.forall_mem_cons.mp unbroken
    rw [charLines_cons hr hn]
    cases line with
    | nil => rw [charLines_nil, extendFirst]
    | cons d line => rw [ih unbroken (List.cons_ne_nil d line), extendFirst]

theorem mem_extendFirst {c : Char} {ls : List (List Char)} (h : line ∈ extendFirst c ls) :
    line ∈ ls ∨ ∃ rest, (rest = [] ∨ rest ∈ ls) ∧ line = c :: rest := by
  cases ls with
  | nil => exact .inr ⟨[], .inl rfl, List.mem_singleton.mp h⟩
  | cons first others =>
    rcases List.mem_cons.mp h with rfl | later
    · exact .inr ⟨first, .inr List.mem_cons_self, rfl⟩
    · exact .inl (List.mem_cons_of_mem _ later)

theorem exists_mem_extendFirst (c : Char) {ls : List (List Char)} (h : line ∈ ls) :
    ∃ line' ∈ extendFirst c ls, line <:+ line' := by
  cases ls with
  | nil => exact absurd h List.not_mem_nil
  | cons first others =>
    rcases List.mem_cons.mp h with rfl | later
    · exact ⟨_, List.mem_cons_self, List.suffix_cons ..⟩
    · exact ⟨line, List.mem_cons_of_mem _ later, List.suffix_rfl⟩

/-- A line has only characters of the text, and no line feed. -/
theorem mem_of_mem_charLines (h : line ∈ charLines cs) {c : Char} (member : c ∈ line) :
    c ∈ cs ∧ c ≠ '\n' := by
  induction cs using charLines.induct generalizing line with
  | case1 => simp at h
  | case2 cs ih | case3 cs ih =>
    simp only [charLines_return_feed, charLines_feed] at h
    rcases List.mem_cons.mp h with rfl | h
    · exact absurd member List.not_mem_nil
    · obtain ⟨within, plain⟩ := ih h member
      exact ⟨by simp [within], plain⟩
  | case4 d cs other feed ih =>
    rw [charLines.eq_4 d cs other feed] at h
    rcases mem_extendFirst h with old | ⟨rest, part, rfl⟩
    · obtain ⟨within, plain⟩ := ih old member
      exact ⟨List.mem_cons_of_mem _ within, plain⟩
    · rcases List.mem_cons.mp member with rfl | member
      · exact ⟨List.mem_cons_self, feed⟩
      · rcases part with rfl | old
        · exact absurd member List.not_mem_nil
        · obtain ⟨within, plain⟩ := ih old member
          exact ⟨List.mem_cons_of_mem _ within, plain⟩

/-- A colon and a space are never torn apart. -/
theorem exists_line_of_infix (h : [':', ' '] <:+: cs) :
    ∃ line ∈ charLines cs, [':', ' '] <:+: line := by
  induction cs using charLines.induct with
  | case1 => cases List.infix_nil.mp h
  | case2 cs ih | case3 cs ih =>
    simp only [charLines_return_feed, charLines_feed]
    obtain ⟨line, member, part⟩ := ih (by simpa [List.infix_cons_iff] using h)
    exact ⟨line, List.mem_cons_of_mem _ member, part⟩
  | case4 c cs other feed ih =>
    rw [charLines.eq_4 c cs other feed]
    rcases List.infix_cons_iff.mp h with ⟨rest, here⟩ | later
    · obtain ⟨rfl, rfl⟩ := List.cons.inj here
      show ∃ line ∈ extendFirst ':' (charLines (' ' :: rest)), _
      rw [charLines_cons (by decide) (by decide)]
      cases charLines rest with
      | nil => exact ⟨_, List.mem_singleton_self _, List.infix_rfl⟩
      | cons first others => exact ⟨_, List.mem_cons_self, [], first, rfl⟩
    · obtain ⟨line, member, part⟩ := ih later
      obtain ⟨line', member', tail⟩ := exists_mem_extendFirst c member
      exact ⟨line', member', part.trans tail.isInfix⟩

/-- A line feed only splits, but for an empty line if there is none before it that it could end. -/
theorem exists_charLines_append (plain : '\r' ∉ cs) (ds : List Char) :
    ∃ blanks, (∀ line ∈ blanks, line = []) ∧
      charLines (cs ++ '\n' :: ds) = charLines cs ++ blanks ++ charLines ds := by
  induction cs with
  | nil => exact ⟨[[]], by simp, by rw [List.nil_append, charLines_feed]; simp⟩
  | cons c cs ih =>
    obtain ⟨own, plain⟩ := not_or.mp (mt List.mem_cons.mpr plain)
    obtain ⟨blanks, blank, split⟩ := ih plain
    by_cases feed : c = '\n'
    · subst feed
      refine ⟨blanks, blank, ?_⟩
      rw [List.cons_append, charLines_feed, charLines_feed, split]
      rfl
    · rw [List.cons_append, charLines_cons (Ne.symm own) feed, charLines_cons (Ne.symm own) feed]
      cases rest : charLines cs with
      | nil =>
        obtain rfl := charLines_eq_nil_iff.mp rest
        refine ⟨[], by simp, ?_⟩
        rw [List.nil_append, charLines_feed]
        rfl
      | cons first others =>
        refine ⟨blanks, blank, ?_⟩
        rw [split, rest]
        rfl

/-- So of lines with something in them, a text has those before a line feed and those after it. -/
theorem filter_charLines_append (p : List Char → Bool) (blank : p [] = false) (plain : '\r' ∉ cs)
    (ds : List Char) :
    (charLines (cs ++ '\n' :: ds)).filter p =
      (charLines cs).filter p ++ (charLines ds).filter p := by
  obtain ⟨blanks, empty, split⟩ := exists_charLines_append plain ds
  have none : blanks.filter p = [] := by
    rw [List.filter_eq_nil_iff]
    intro line member
    rw [empty line member, blank]
    exact Bool.false_ne_true
  rw [split, List.filter_append, List.filter_append, none, List.append_nil]

theorem toList_append_feed (a b : String) :
    (a ++ "\n" ++ b).toList = a.toList ++ '\n' :: b.toList := by
  rw [String.toList_append, String.toList_append, List.append_assoc]
  rfl

/-- The text has no carriage return. -/
def NoReturn (text : String) : Prop := '\r' ∉ text.toList

instance : DecidablePred NoReturn := fun _ => inferInstanceAs (Decidable (¬ _))

theorem noReturn_append {a b : String} : NoReturn (a ++ b) ↔ NoReturn a ∧ NoReturn b := by
  simp [NoReturn]

theorem noReturn_intercalate {separator : String} {texts : List String} (s : NoReturn separator)
    (h : ∀ text ∈ texts, NoReturn text) : NoReturn (separator.intercalate texts) := by
  induction texts with
  | nil => simp [NoReturn]
  | cons text texts ih =>
    obtain ⟨own, others⟩ := List.forall_mem_cons.mp h
    cases texts with
    | nil => rwa [String.intercalate_singleton]
    | cons next texts =>
      rw [String.intercalate_cons_cons, noReturn_append, noReturn_append]
      exact ⟨⟨own, s⟩, ih others⟩

theorem eq_of_ofNat_eq_return {code : Nat} (h : Char.ofNat code = '\r') : code = 13 := by
  by_cases valid : code.isValidChar
  · have same : Char.ofNat code = Char.ofNatAux code valid := dif_pos valid
    rw [same] at h
    exact congrArg Char.toNat h
  · have same : Char.ofNat code = '\x00' := dif_neg valid
    rw [same] at h
    cases h

/-- A character that is none is not mapped to a carriage return if the tables do not have it. -/
theorem return_not_mem_mapCase {long : List (Nat × List Nat)} {runs : List CaseRun}
    (inLong : ∀ entry ∈ long, 13 ∉ entry.2)
    (inRuns : ∀ run ∈ runs, (13 : Int) < run.first + run.shift) {c : Char} (own : c ≠ '\r') :
    '\r' ∉ mapCase long runs c := by
  unfold mapCase
  split
  · rename_i codes found
    intro member
    obtain ⟨code, inside, same⟩ := List.mem_map.mp member
    obtain ⟨front, back, rfl, -⟩ := List.lookup_eq_some_iff.mp found
    rw [eq_of_ofNat_eq_return same] at inside
    exact inLong (c.toNat, codes) (by simp) inside
  · rw [List.mem_singleton, CaseRun.counterpart?]
    cases found : runs.find? (·.covers c.toNat) with
    | none => exact Ne.symm own
    | some run =>
      intro same
      have code : ((c.toNat : Int) + run.shift).toNat = 13 := eq_of_ofNat_eq_return same.symm
      have far := inRuns run (List.mem_of_find?_eq_some found)
      have covers := List.find?_some found
      simp only [CaseRun.covers, Bool.and_eq_true, decide_eq_true_eq] at covers
      omega

theorem return_not_mem_capital {c : Char} (own : c ≠ '\r') : '\r' ∉ capital c :=
  return_not_mem_mapCase (by decide) (by decide +kernel) own

theorem return_not_mem_small {c : Char} (own : c ≠ '\r') : '\r' ∉ small c :=
  return_not_mem_mapCase (by decide) (by decide +kernel) own

theorem NoReturn.capitalize {word : String} (h : NoReturn word) : NoReturn (capitalize word) := by
  unfold Text.capitalize
  unfold NoReturn at h
  split
  · simp [NoReturn]
  · rename_i first rest chars
    rw [chars] at h
    obtain ⟨own, others⟩ := not_or.mp (mt List.mem_cons.mpr h)
    rw [NoReturn, String.toList_ofList, List.mem_append, List.mem_flatMap]
    rintro (member | ⟨c, inside, member⟩)
    · exact return_not_mem_capital (Ne.symm own) member
    · exact return_not_mem_small (fun same => others (same ▸ inside)) member

end Text

/-! ## Bullets -/

namespace Extractive

open Text

/-- The line has a colon and a space somewhere in it. -/
theorem holdsTurn_iff {line : List Char} : holdsTurn line = true ↔ [':', ' '] <:+: line := by
  induction line using holdsTurn.induct with
  | case1 => simp [holdsTurn]
  | case2 rest => simp [holdsTurn, List.infix_cons_iff]
  | case3 c rest other ih =>
    rw [holdsTurn.eq_3 c rest other, ih, List.infix_cons_iff]
    refine ⟨.inr, fun h => h.resolve_left ?_⟩
    rintro ⟨tail, here⟩
    obtain ⟨rfl, rfl⟩ := List.cons.inj here
    exact other tail rfl rfl

/-- Some marks are gone, and none is left in front. -/
theorem dropMarks_spec (line : List Char) :
    (∃ n, line = (List.replicate n bulletMark).flatten ++ dropMarks line) ∧
      ¬ bulletMark <+: dropMarks line := by
  induction line using dropMarks.induct with
  | case1 rest ih =>
    obtain ⟨⟨n, split⟩, unmarked⟩ := ih
    rw [dropMarks]
    refine ⟨⟨n + 1, ?_⟩, unmarked⟩
    rw [List.replicate_succ, List.flatten_cons, List.append_assoc, ← split]
    rfl
  | case2 line other =>
    rw [dropMarks.eq_2 line other]
    refine ⟨⟨0, rfl⟩, ?_⟩
    rintro ⟨rest, rfl⟩
    exact other rest rfl

theorem dropMarks_of_unmarked {line : List Char} (h : ¬ bulletMark <+: line) :
    dropMarks line = line := by
  rw [dropMarks.eq_2]
  rintro rest rfl
  exact h ⟨rest, rfl⟩

/-- A line that is a bullet with one mark. -/
structure IsBullet (text : String) : Prop where
  marked : ∃ rest, text.toList = bulletMark ++ rest ∧ ¬ bulletMark <+: rest
  unbroken : ∀ c ∈ text.toList, c ≠ '\r' ∧ c ≠ '\n'

namespace IsBullet

variable {text : String}

theorem ne_empty (b : IsBullet text) : text ≠ "" := by
  rintro rfl
  obtain ⟨rest, split, -⟩ := b.marked
  cases split

theorem noReturn (b : IsBullet text) : NoReturn text := fun member => (b.unbroken _ member).1 rfl

theorem charLines_eq (b : IsBullet text) : charLines text.toList = [text.toList] :=
  charLines_of_unbroken b.unbroken (mt String.toList_eq_nil_iff.mp b.ne_empty)

/-- It is copied as it is. -/
theorem bullets_eq (b : IsBullet text) : bullets text = [text] := by
  obtain ⟨rest, split, unmarked⟩ := b.marked
  have kept : isKept (bulletMark ++ rest) = true := by
    rw [isKept, Bool.or_eq_true]
    exact .inr (List.isPrefixOf_iff_prefix.mpr (List.prefix_append ..))
  have same : bullet (bulletMark ++ rest) = bulletMark ++ rest :=
    congrArg (bulletMark ++ ·) (dropMarks_of_unmarked unmarked)
  rw [bullets, b.charLines_eq, split, List.filter_cons_of_pos kept, List.filter_nil,
    List.map_singleton, same, ← split, String.ofList_toList]

theorem lines_eq (b : IsBullet text) : lines text = [text] := by
  rw [lines, b.charLines_eq, List.map_singleton, String.ofList_toList]

end IsBullet

/-- What is kept is made a bullet. -/
theorem isBullet_of_mem_bullets {text : String} (plain : NoReturn text) {b : String}
    (h : b ∈ bullets text) : IsBullet b := by
  obtain ⟨line, member, rfl⟩ := List.mem_map.mp h
  obtain ⟨⟨n, split⟩, unmarked⟩ := dropMarks_spec line
  refine ⟨⟨dropMarks line, String.toList_ofList, unmarked⟩, fun c inside => ?_⟩
  rw [String.toList_ofList] at inside
  rcases List.mem_append.mp inside with mark | inside
  · obtain rfl | rfl : c = '-' ∨ c = ' ' := by simpa [bulletMark] using mark
    all_goals decide
  · have own : c ∈ line := by
      rw [split]
      exact List.mem_append_right _ inside
    obtain ⟨within, feed⟩ := mem_of_mem_charLines (List.mem_filter.mp member).1 own
    exact ⟨fun same => plain (same ▸ within), feed⟩

/-- A line feed separates what is before it from what is behind it. -/
theorem bullets_append_feed {a : String} (plain : NoReturn a) (b : String) :
    bullets (a ++ "\n" ++ b) = bullets a ++ bullets b := by
  rw [bullets, toList_append_feed, filter_charLines_append isKept rfl plain, List.map_append]
  rfl

/-- So do two. -/
theorem bullets_append_gap {a : String} (plain : NoReturn a) (b : String) :
    bullets (a ++ "\n\n" ++ b) = bullets a ++ bullets b := by
  have gap : a ++ "\n\n" ++ b = a ++ "\n" ++ ("" ++ "\n" ++ b) := by
    rw [← String.toList_inj]
    simp
  rw [gap, bullets_append_feed plain, bullets_append_feed (by decide)]
  rfl

/-- Texts that are separated have the bullets of each. -/
theorem bullets_intercalate {separator : String}
    (separates : ∀ {a}, NoReturn a → ∀ b, bullets (a ++ separator ++ b) = bullets a ++ bullets b)
    {texts : List String} (plain : ∀ text ∈ texts, NoReturn text) :
    bullets (separator.intercalate texts) = texts.flatMap bullets := by
  induction texts with
  | nil => rfl
  | cons text texts ih =>
    obtain ⟨own, others⟩ := List.forall_mem_cons.mp plain
    cases texts with
    | nil => rw [String.intercalate_singleton, List.flatMap_singleton]
    | cons next texts =>
      rw [String.intercalate_cons_cons, separates own, ih others]
      rfl

theorem noReturn_of_isBullet {texts : List String} (h : ∀ text ∈ texts, IsBullet text) :
    NoReturn ("\n".intercalate texts) :=
  noReturn_intercalate (by decide) fun text member => (h text member).noReturn

/-- Bullets under each other are copied as they are. -/
theorem bullets_of_isBullet {texts : List String} (h : ∀ text ∈ texts, IsBullet text) :
    bullets ("\n".intercalate texts) = texts := by
  rw [bullets_intercalate bullets_append_feed fun text member => (h text member).noReturn,
    List.flatMap_congr fun text member => (h text member).bullets_eq, List.flatMap_singleton']

/-- And they are the lines. -/
theorem lines_of_isBullet {texts : List String} (h : ∀ text ∈ texts, IsBullet text) :
    lines ("\n".intercalate texts) = texts := by
  induction texts with
  | nil => rfl
  | cons text texts ih =>
    obtain ⟨own, others⟩ := List.forall_mem_cons.mp h
    cases texts with
    | nil => rw [String.intercalate_singleton, own.lines_eq]
    | cons next texts =>
      rw [String.intercalate_cons_cons, lines, toList_append_feed,
        charLines_append_feed _ _ own.unbroken, List.map_cons, String.ofList_toList, ← lines,
        ih others]

theorem extract_eq_empty_iff {text : String} (plain : NoReturn text) :
    extract text = "" ↔ bullets text = [] := by
  unfold extract
  cases h : bullets text with
  | nil => exact iff_of_true rfl rfl
  | cons first others =>
    refine iff_of_false (intercalate_ne_empty ?_ others) (List.cons_ne_nil _ _)
    exact (isBullet_of_mem_bullets plain (h ▸ List.mem_cons_self)).ne_empty

/-! ## Prompts -/

/-- The bullets in the wording of a request to merge. -/
def mergeBullets : List String :=
  ["- 去除重复信息", "- 保持时间顺序", "- 突出重点和变化", "- 保持简洁（不超过原有长度）"]

/-- The wording of a request to summarize adds no bullets to those of the conversation. -/
theorem conversationRequest_spec {conversation : String} (plain : NoReturn conversation) :
    NoReturn (Wording.conversationRequest conversation) ∧
      bullets (Wording.conversationRequest conversation) = bullets conversation := by
  refine ⟨noReturn_intercalate (by decide) ?parts,
    (bullets_intercalate bullets_append_feed ?parts).trans ?_⟩
  case parts =>
    simp only [List.forall_mem_cons, plain]
    decide +kernel
  calc
    _ = bullets conversation ++ [] := rfl
    _ = bullets conversation := List.append_nil _

/-- A request to merge has its own in front of those of the two summaries. -/
theorem mergeRequest_spec {older newer : String} (before : NoReturn older)
    (after : NoReturn newer) :
    NoReturn (Wording.mergeRequest older newer) ∧
      bullets (Wording.mergeRequest older newer) =
        mergeBullets ++ bullets older ++ bullets newer := by
  refine ⟨noReturn_intercalate (by decide) ?parts,
    (bullets_intercalate bullets_append_feed ?parts).trans ?_⟩
  case parts =>
    simp only [List.forall_mem_cons, before, after]
    decide +kernel
  calc
    _ = mergeBullets ++ (bullets older ++ (bullets newer ++ [])) := rfl
    _ = mergeBullets ++ bullets older ++ bullets newer := by
      rw [List.append_nil, List.append_assoc]

end Extractive

/-! ## Conversations -/

open Extractive Text

/-- Neither the name of the speaker nor what is said has a carriage return. -/
structure Message.NoReturn (message : Message) : Prop where
  role : Text.NoReturn message.role.name
  text : Text.NoReturn message.text

instance : DecidablePred Message.NoReturn := fun message =>
  decidable_of_iff (Text.NoReturn message.role.name ∧ Text.NoReturn message.text)
    ⟨fun ⟨role, text⟩ => ⟨role, text⟩, fun h => ⟨h.role, h.text⟩⟩

theorem Role.noReturn_label {role : Role} (h : NoReturn role.name) : NoReturn role.label := by
  cases role with
  | other name => exact h.capitalize
  | user | assistant | system | tool => decide

namespace Message

theorem NoReturn.block {message : Message} (h : message.NoReturn) :
    Text.NoReturn message.block := by
  rw [Message.block, noReturn_append, noReturn_append]
  exact ⟨⟨Role.noReturn_label h.role, by decide⟩, h.text⟩

theorem bullets_block_ne_nil (message : Message) : bullets message.block ≠ [] := by
  have turn : [':', ' '] <:+: message.block.toList := by
    refine ⟨message.role.label.toList, message.text.toList, ?_⟩
    rw [Message.block, String.toList_append, String.toList_append]
    rfl
  obtain ⟨line, member, held⟩ := exists_line_of_infix turn
  have kept : isKept line = true := by
    rw [isKept, holdsTurn_iff.mpr held, Bool.true_or]
  intro none
  exact List.filter_eq_nil_iff.mp (List.map_eq_nil_iff.mp none) line member kept

variable {messages : List Message}

theorem noReturn_of_mem_blocks (h : ∀ message ∈ messages, message.NoReturn) :
    ∀ block ∈ messages.filterMap block?, Text.NoReturn block := by
  rw [filterMap_block?, List.forall_mem_map]
  exact fun message spoken => (h message (List.mem_filter.mp spoken).1).block

theorem noReturn_render (h : ∀ message ∈ messages, message.NoReturn) :
    Text.NoReturn (render messages) :=
  noReturn_intercalate (by decide) (noReturn_of_mem_blocks h)

theorem summaryRequest_spec (h : ∀ message ∈ messages, message.NoReturn) :
    Text.NoReturn (Wording.summaryRequest messages) ∧
      bullets (Wording.summaryRequest messages) = bullets (render messages) :=
  conversationRequest_spec (noReturn_render h)

/-- A conversation has no bullets exactly if nothing is said in it. -/
theorem bullets_render_eq_nil_iff (h : ∀ message ∈ messages, message.NoReturn) :
    bullets (render messages) = [] ↔ ∀ message ∈ messages, message.isSilent = true := by
  rw [render, bullets_intercalate bullets_append_gap (noReturn_of_mem_blocks h), filterMap_block?,
    List.flatMap_eq_nil_iff, List.forall_mem_map]
  constructor
  · intro nothing message member
    refine isSilent_iff.mpr (Decidable.byContradiction fun spoken => ?_)
    exact message.bullets_block_ne_nil
      (nothing message (List.mem_filter.mpr ⟨member, decide_eq_true spoken⟩))
  · intro silent message kept
    obtain ⟨member, spoken⟩ := List.mem_filter.mp kept
    exact absurd (isSilent_iff.mp (silent message member)) (of_decide_eq_true spoken)

end Message

end RollingHistory
