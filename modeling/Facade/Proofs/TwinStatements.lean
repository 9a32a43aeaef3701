-- Statements and files at twins.
import Facade.Proofs.TwinExports

namespace Facade

open Lexer Reader Grammar

set_option synthInstance.maxSize 4096

/-! ## Lists of statements -/

section Lists

variable {s : Spot} {first first' second second' : List Statement}

theorem Statement.AllAlike.refl (statements : List Statement) :
    Statement.AllAlike statements statements := by
  induction statements with
  | nil => exact .nil
  | cons statement statements ih => exact .cons (.same statement) ih

instance allAlike_of_same [h : SameValue first first'] : Statement.AllAlike first first' :=
  h.eq ▸ .refl first

instance allAlike_append [h : Statement.AllAlike first first']
    [h' : Statement.AllAlike second second'] :
    Statement.AllAlike (first ++ second) (first' ++ second') := by
  induction first generalizing first' with
  | nil =>
    cases h
    exact h'
  | cons statement first ih =>
    cases h with
    | cons halike hmore => exact .cons halike (@ih _ hmore)

instance allAlike_singleton {statement statement' : Statement} [h : statement.Alike statement'] :
    Statement.AllAlike [statement] [statement'] := .cons h .nil

instance pure_statements_alike [h : Statement.AllAlike first first'] :
    ReadsAlike s Statement.AllAlike (pure first) (pure first') := ⟨fun htwin => .ok h htwin⟩

instance pure_done_alike [h : Statement.AllAlike first first'] :
    ReadsAlike s (RelatedRounds Statement.AllAlike Statement.AllAlike) (pure (.done first))
      (pure (.done first')) :=
  ⟨fun htwin => .ok h htwin⟩

instance pure_again_alike [h : Statement.AllAlike first first'] :
    ReadsAlike s (RelatedRounds Statement.AllAlike Statement.AllAlike) (pure (.again first))
      (pure (.again first')) :=
  ⟨fun htwin => .ok h htwin⟩

end Lists

section

variable {s : Spot} {g g' : Productions} [h : Productions.Alike s g g']

/-! ## Values -/

instance expressionStatement_alike :
    ReadsAlike s Statement.Alike (expressionStatement g) (expressionStatement g') := by
  unfold expressionStatement
  infer_instance

instance sequenceGoesOn_same {place twin : Cursor} [Twin s place twin] :
    SameValue (sequenceGoesOn place) (sequenceGoesOn twin) := by
  unfold sequenceGoesOn
  infer_instance

/-! ## Choices and loops -/

instance statementBefore_alike (word : String) :
    ReadsAlike s Eq (statementBefore g word) (statementBefore g' word) := by
  unfold statementBefore
  infer_instance

instance ifStatement_alike : ReadsAlike s Eq (ifStatement g) (ifStatement g') := by
  unfold ifStatement
  infer_instance

instance guardedStatement_alike : ReadsAlike s Eq (guardedStatement g) (guardedStatement g') := by
  unfold guardedStatement
  infer_instance

instance doStatement_alike : ReadsAlike s Eq (doStatement g) (doStatement g') := by
  unfold doStatement
  infer_instance

instance forElements_alike : ReadsAlike s Eq (forElements g) (forElements g') := by
  unfold forElements
  infer_instance

instance forSteps_alike : ReadsAlike s Eq (forSteps g) (forSteps g') := by
  unfold forSteps
  infer_instance

instance forDeclaration_alike : ReadsAlike s Eq (forDeclaration g) (forDeclaration g') := by
  unfold forDeclaration
  infer_instance

instance forValue_alike : ReadsAlike s Eq (forValue g) (forValue g') := by
  unfold forValue
  infer_instance

instance forStatement_alike : ReadsAlike s Eq (forStatement g) (forStatement g') := by
  unfold forStatement
  dsimp only
  infer_instance

/-! ## Other ways to go on -/

instance tryStatement_alike : ReadsAlike s Eq (tryStatement g) (tryStatement g') := by
  unfold tryStatement
  dsimp only
  refine .andThen fun _ => .andThen fun _ => .andThen fun _ => .andThen fun caught =>
    .ite (fun _ => ?_) inferInstance
  infer_instance

instance switchCases_alike : ReadsAlike s Eq (switchCases g) (switchCases g') := by
  unfold switchCases
  infer_instance

instance switchStatement_alike : ReadsAlike s Eq (switchStatement g) (switchStatement g') := by
  unfold switchStatement
  infer_instance

instance returnStatement_alike : ReadsAlike s Eq (returnStatement g) (returnStatement g') := by
  unfold returnStatement
  infer_instance

instance throwStatement_alike : ReadsAlike s Eq (throwStatement g) (throwStatement g') := by
  unfold throwStatement
  infer_instance

instance jumpStatement_alike : ReadsAlike s Eq jumpStatement jumpStatement := by
  unfold jumpStatement
  infer_instance

theorem controlStatement?_rel (word : String) :
    Option.Rel (ReadsAlike s Eq) (controlStatement? g word) (controlStatement? g' word) := by
  unfold controlStatement?
  split
  case h_13 => exact .none
  all_goals exact .some inferInstance

/-! ## Blocks -/

instance blockStatement_alike :
    ReadsAlike s Statement.Alike (blockStatement g) (blockStatement g') := by
  unfold blockStatement
  infer_instance

instance startsOnlyBlock_same {place twin : Cursor} [Twin s place twin] :
    SameValue (startsOnlyBlock place) (startsOnlyBlock twin) := by
  unfold startsOnlyBlock
  infer_instance

instance bracedStatement_alike :
    ReadsAlike s Statement.Alike (bracedStatement g) (bracedStatement g') := by
  unfold bracedStatement
  dsimp only
  infer_instance

/-! ## All statements -/

instance labelledStatement_alike :
    ReadsAlike s Statement.Alike (labelledStatement g) (labelledStatement g') := by
  unfold labelledStatement
  infer_instance

instance exportStarts_same {place twin : Cursor} [Twin s place twin] :
    SameValue (exportStarts place) (exportStarts twin) := by
  unfold exportStarts
  infer_instance

instance wordStatement_alike {place twin : Cursor} [htwin : Twin s place twin] :
    ReadsAlike s Statement.Alike (wordStatement g place) (wordStatement g' twin) := by
  unfold wordStatement
  dsimp only
  rw [htwin.text_eq]
  refine .ite (fun _ => inferInstance) ?_
  have hcontrol := @controlStatement?_rel s g g' h place.token.text
  generalize controlStatement? g place.token.text = found at hcontrol
  generalize controlStatement? g' place.token.text = found' at hcontrol
  cases hcontrol with
  | none => infer_instance
  | some hreader => exact .andThen fun _ => inferInstance

instance decoratedStatement_alike :
    ReadsAlike s Statement.Alike (decoratedStatement g) (decoratedStatement g') := by
  unfold decoratedStatement
  refine look_alike (h := fun places => .andThen fun _ => .andThen fun exported =>
    .ite (fun _ => ?_) inferInstance)
  exact ⟨fun htwin => exportTail_alike true htwin nofun⟩

instance statement_alike :
    ReadsAlike s Statement.Alike (Grammar.statement g) (Grammar.statement g') := by
  unfold Grammar.statement
  infer_instance

/-! ## Blocks -/

omit h in
/-- Loops of readers that read alike end with rounds at twins. -/
theorem loopUpTo_done {σ α : Type} {related : α → α → Prop} {round round' : σ → Reader (Round σ α)}
    {kept : σ → σ → Prop}
    (h : ∀ state state', kept state state' →
      ReadsAlike s (RelatedRounds kept related) (round state) (round' state'))
    {fuel fuel' : Nat} (hfuel : fuel ≤ fuel') {state state' : σ} (hstate : kept state state')
    {place twin rest rest' : Cursor} (htwin : Twin s place twin) {value value' : α}
    (hread : loopUpTo round fuel state place = .ok value rest)
    (hread' : loopUpTo round' fuel' state' twin = .ok value' rest') :
    ∃ last last' here here', Twin s here here' ∧ round last here = .ok (.done value) rest ∧
      round' last' here' = .ok (.done value') rest' := by
  induction fuel generalizing fuel' state state' place twin with
  | zero => cases hread
  | succ fuel ih =>
    obtain ⟨fuel', rfl⟩ := Nat.exists_eq_add_of_le hfuel
    rw [Nat.add_right_comm, loopUpTo] at hread'
    rw [loopUpTo] at hread
    obtain ⟨found, stop, hround, hread⟩ := bind_eq_ok_iff.1 hread
    obtain ⟨found', stop', hround', hread'⟩ := bind_eq_ok_iff.1 hread'
    have halike := (h state state' hstate).alike htwin
    rw [hround, hround'] at halike
    cases halike with
    | ok hfound hstop =>
      cases found <;> cases found'
      case again.again => exact ih (Nat.le_add_right _ _) hfound hstop hread hread'
      case done.done =>
        cases hread
        cases hread'
        exact ⟨state, state', place, twin, htwin, hround, hround'⟩
      all_goals cases hfound

omit h in
theorem Twin.withBody {place twin : Cursor} (h : Twin s place twin)
    (hlast : place.left + place.gap = s.rest.length → s.last = "\x7d") :
    Twin s { place with before := .body } { twin with before := .body } := by
  cases h with
  | ahead h hmore => exact .ahead h hmore
  | here =>
    refine .here fun _ => hlast ?_
    rw [s.length_rest, Nat.add_comm]
    rfl
  | past hin hleft hcut => exact .past (hin.withBefore .body) hleft hcut

omit h in
/-- After a closing brace a body may have been read. -/
theorem Twin.next_body {place twin : Cursor} (h : Twin s place twin)
    (hbrace : place.token.text = "\x7d") :
    Twin s { place.next with before := .body } { twin.next with before := .body } := by
  have hsize : Trivia.size [] = 0 := rfl
  refine h.next.withBody fun hspot => ?_
  cases h with
  | @ahead token more before h hmore =>
    rw [next_eq_ofChars, Cursor.left_add_gap_ofChars, List.length_append, hsize] at hspot
    rcases h.last (List.eq_nil_of_length_eq_zero (by omega)) with htext | ⟨htext, -⟩
    · rw [← htext, hbrace]
    · rw [hbrace] at htext
      exact absurd htext (by decide)
  | here =>
    have hpos := length_pos_of_ne_empty s.text_ne_empty
    have hlength := s.length_rest
    rw [Spot.chars, next_eq_ofChars, Cursor.left_add_gap_ofChars, hsize] at hspot
    rw [Spot.chars, List.length_append, String.length_toList] at hlength
    omega
  | past hin hleft =>
    rw [Cursor.next, hin.left_after, Cursor.left_add_gap_ofChars, hsize, ← hin.left_after] at hspot
    omega

/-- One more statement of a block, or its end. -/
def blockRound (g : Productions) (statements : List Statement) :
    Reader (Round (List Statement) (List Statement)) := do
  startNew
  let statements := statements ++ markupStatements (← peek)
  if ← acceptMark "\x7d" then return .done statements
  if (← look).atEnd then missing "\x7d"
  return .again (statements ++ [← g.statement])

theorem block_eq (g : Productions) : Grammar.block g = (do
    let statements ← loop (blockRound g) []
    leave .body
    return statements) := rfl

theorem blockRound_alike {first first' : List Statement}
    (hstate : Statement.AllAlike first first') :
    ReadsAlike s (RelatedRounds Statement.AllAlike Statement.AllAlike) (blockRound g first)
      (blockRound g' first') := by
  unfold blockRound
  dsimp only
  infer_instance

omit h in
/-- A block ends with a brace. -/
theorem brace_of_blockRound {first value : List Statement} {place rest : Cursor}
    (hround : blockRound g first place = .ok (.done value) rest) :
    ∃ stop, startNew place = .ok () stop ∧ stop.withMarkup.withMarkup.token.isMark "\x7d" ∧
      rest = stop.withMarkup.withMarkup.next := by
  obtain ⟨_, stop, hstart, hround⟩ := bind_eq_ok_iff.1 hround
  obtain ⟨token, _, hpeek, hround⟩ := bind_eq_ok_iff.1 hround
  cases hpeek
  obtain ⟨found, after, haccept, hround⟩ := bind_eq_ok_iff.1 hround
  cases found with
  | true =>
    cases hround
    exact ⟨stop, hstart, acceptMark_eq_true haccept⟩
  | false =>
    obtain ⟨here, _, hlook, hround⟩ := bind_eq_ok_iff.1 hround
    split at hround
    · obtain ⟨_, _, hmissing, -⟩ := bind_eq_ok_iff.1 hround
      cases hmissing
    · obtain ⟨_, _, -, hround⟩ := bind_eq_ok_iff.1 hround
      cases hround

instance block_alike : ReadsAlike s Statement.AllAlike (Grammar.block g) (Grammar.block g') := by
  rw [block_eq, block_eq]
  have hrounds (first first' : List Statement) (hstate : Statement.AllAlike first first') :
      ReadsAlike s (RelatedRounds Statement.AllAlike Statement.AllAlike) (blockRound g first)
        (blockRound g' first') :=
    blockRound_alike hstate
  refine ⟨fun {place twin} htwin =>
    ((ReadsAlike.loop Statement.AllAlike hrounds .nil).alike htwin).bind
    fun value value' rest rest' hread hread' hvalue hrest => ?_⟩
  have hfuel : place.left + 2 ≤ twin.left + 2 := by
    have hleft := htwin.left_eq
    have hlength := s.length_lt
    omega
  obtain ⟨_, _, here, here', hhere, hround, hround'⟩ :=
    loopUpTo_done hrounds hfuel .nil htwin hread hread'
  obtain ⟨stop, hstart, hbrace, rfl⟩ := brace_of_blockRound hround
  obtain ⟨stop', hstart', -, rfl⟩ := brace_of_blockRound hround'
  have hstop := startNew_alike.alike hhere
  rw [hstart, hstart'] at hstop
  cases hstop with
  | ok _ hstop =>
    exact .ok hvalue (hstop.withMarkup.withMarkup.next_body
      (by simpa using (Bool.and_eq_true_iff.1 hbrace).2))

end

/-! ## Files -/

/-- The forms of the language read alike, to any depth of nesting. -/
theorem productions_alike (s : Spot) {few more : Nat} (hle : few ≤ more) :
    Productions.Alike s (productions few) (productions more) := by
  induction few generalizing more with
  | zero =>
    exact ⟨productions_agree hle, fun _ _ => exhausted_alike _, fun _ => exhausted_alike _,
      fun _ _ => exhausted_alike _, fun _ => exhausted_alike _, fun _ => exhausted_alike _,
      fun _ => exhausted_alike _, fun _ => exhausted_alike _, fun _ => exhausted_alike _,
      fun _ => exhausted_alike _, exhausted_alike _, exhausted_alike _, exhausted_alike _,
        exhausted_alike _⟩
  | succ few ih =>
    obtain ⟨more, rfl⟩ := Nat.exists_eq_add_of_le' (Nat.zero_lt_of_lt hle)
    have hforms := ih (Nat.le_of_succ_le_succ hle)
    -- each form is made of forms that are nested less deeply
    exact ⟨productions_agree hle, type_alike, intersectionType_alike .plain, operandType_alike,
      expression_alike,
      unary_alike, simpleValue_alike, target_alike, pattern_alike, objectMembers_alike,
        declaration_alike,
      exportStatement_alike, statement_alike, block_alike⟩

section

variable {s : Spot}

instance interpreterLine_alike :
    ReadsAlike s Statement.AllAlike interpreterLine interpreterLine := by
  unfold interpreterLine
  infer_instance

theorem nextStatement_alike {g g' : Productions} [h : Productions.Alike s g g']
    {first first' : List Statement} (hstate : Statement.AllAlike first first') :
    ReadsAlike s (RelatedRounds Statement.AllAlike Statement.AllAlike) (nextStatement g first)
      (nextStatement g' first') := by
  unfold nextStatement
  dsimp only
  infer_instance

theorem fileStatements_alike {g g' : Productions} [h : Productions.Alike s g g'] :
    ReadsAlike s Statement.AllAlike (fileStatements g) (fileStatements g') := by
  unfold fileStatements
  exact interpreterLine_alike.bind fun _ _ hfirst =>
    .loop Statement.AllAlike (fun _ _ hstate => nextStatement_alike hstate) hfirst

end

end Facade
