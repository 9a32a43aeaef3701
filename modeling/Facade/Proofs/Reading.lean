-- Readers side by side. Two readers agree on a text when the second answers like the first wherever
-- nesting does not run out for the first, and what the first reads comes from the text. More nesting
-- only ever adds answers, so this is how readers with little and with much of it compare.
import Facade.Grammar.File
import Mathlib.Tactic.Common
import Mathlib.Tactic.GCongr

namespace Facade

/-! ## Places in a text -/

/-- Trivia and the rest are all of the characters. -/
theorem Lexer.chars_trivia (fuel : Nat) (chars : List Char) :
    Trivia.chars (Lexer.trivia fuel chars).1 ++ (Lexer.trivia fuel chars).2 = chars := by
  induction fuel generalizing chars with
  | zero => rfl
  | succ fuel ih =>
    unfold Lexer.trivia
    dsimp only
    split
    · have htail := ih (chars.drop (blankSize 0 chars))
      simp only [Trivia.chars, List.flatMap_cons, Trivia.text, String.toList_ofList,
        List.append_assoc] at htail ⊢
      rw [htail, List.take_append_drop]
    · split
      · rename_i size _
        have htail := ih (chars.drop size)
        simp only [Trivia.chars, List.flatMap_cons, Trivia.text, String.toList_ofList,
          List.append_assoc] at htail ⊢
        rw [htail, List.take_append_drop]
      · rfl

theorem Lexer.trivia_suffix (fuel : Nat) (chars : List Char) :
    (Lexer.trivia fuel chars).2 <:+ chars :=
  ⟨_, Lexer.chars_trivia fuel chars⟩

theorem Lexer.length_trivia (fuel : Nat) (chars : List Char) :
    (Lexer.trivia fuel chars).2.length = chars.length - Trivia.size (Lexer.trivia fuel chars).1 := by
  have h := congrArg List.length (Lexer.chars_trivia fuel chars)
  rw [List.length_append] at h
  unfold Trivia.size
  omega

namespace Cursor

variable {text : List Char} {place : Cursor}

/-- The place is one of the text: what comes from it on ends the text, and it knows how much that
is. -/
structure In (text : List Char) (place : Cursor) : Prop where
  suffix : place.chars <:+ text
  left : place.left = place.chars.length

theorem chars_ofChars (leading : List Trivia) (left : Nat) (chars : List Char) :
    (ofChars leading left chars).chars = (Lexer.trivia left chars).2 := by
  simp [ofChars, Cursor.chars]

theorem in_ofChars {chars : List Char} {left : Nat} (leading : List Trivia)
    (hleft : left = chars.length) (h : chars <:+ text) : In text (ofChars leading left chars) := by
  subst hleft
  constructor
  · rw [chars_ofChars]
    exact (Lexer.trivia_suffix _ chars).trans h
  · rw [chars_ofChars, Lexer.length_trivia]
    rfl

theorem in_ofText (text : String) : In text.toList (ofText text) :=
  in_ofChars [] String.length_toList.symm (List.suffix_refl _)

/-- The characters after the token are what is left without it. -/
theorem In.left_after (h : In text place) :
    place.left - place.token.text.length = place.after.length := by
  rw [h.left, Cursor.chars, List.length_append, String.length_toList]
  omega

theorem In.after_suffix (h : In text place) : place.after <:+ text :=
  (List.suffix_append _ _).trans h.suffix

theorem In.next (h : In text place) : In text place.next :=
  in_ofChars _ h.left_after h.after_suffix

theorem In.drop (h : In text place) (leading : List Trivia) (count : Nat) :
    In text (ofChars leading (place.left - count) (place.chars.drop count)) :=
  in_ofChars _ (by rw [h.left, List.length_drop]) ((List.drop_suffix _ _).trans h.suffix)

theorem In.skip (h : In text place) (count : Nat) : In text (place.skip count) :=
  h.drop [] count

theorem In.withBefore (h : In text place) (before : Before) : In text { place with before } :=
  ⟨h.suffix, h.left⟩

theorem In.withMarkupUpTo (h : In text place) (fuel : Nat) :
    In text (withMarkupUpTo fuel place) := by
  induction fuel generalizing place with
  | zero => exact h
  | succ fuel ih =>
    unfold Cursor.withMarkupUpTo
    split
    · split
      · exact ih (h.drop _ _)
      · exact h
    · exact h

theorem In.withMarkup (h : In text place) : In text place.withMarkup := by
  unfold Cursor.withMarkup
  split
  · exact h.withMarkupUpTo _
  · exact h

theorem In.token_infix (h : In text place) : place.token.text.toList <:+: text :=
  (List.prefix_append _ _).isInfix.trans h.suffix.isInfix

theorem In.templateStop? (h : In text place) {escapes : Bool} {stop : Lexer.TemplateStop}
    {rest : Cursor} (found : place.templateStop? escapes = some (stop, rest)) : In text rest := by
  unfold Cursor.templateStop? at found
  obtain ⟨⟨_, size⟩, -, hrest⟩ := Option.map_eq_some_iff.mp found
  cases hrest
  exact h.skip _

end Cursor

/-! ## Lines of markup -/

namespace Cursor

variable {text : List Char} {place : Cursor}

/-- Whether a line of markup comes next. -/
def markupNext (place : Cursor) : Bool :=
  place.token.kind == .mark && place.afterBreakable && (markupSize? place.chars).isSome

theorem three_le_of_markupSize? {chars : List Char} {size : Nat}
    (h : markupSize? chars = some size) : 3 ≤ size ∧ size ≤ chars.length := by
  unfold markupSize? at h
  split at h
  · rename_i hstart
    cases h
    refine ⟨?_, List.Sublist.length_le (List.takeWhile_sublist _)⟩
    rw [Bool.or_eq_true, List.isPrefixOf_iff_prefix, List.isPrefixOf_iff_prefix] at hstart
    rcases hstart with ⟨rest, rfl⟩ | ⟨rest, rfl⟩ <;> simp
  · cases h

theorem withMarkupUpTo_eq_self (h : place.markupNext = false) (fuel : Nat) :
    withMarkupUpTo fuel place = place := by
  cases fuel with
  | zero => rfl
  | succ fuel =>
    unfold withMarkupUpTo
    unfold markupNext at h
    split
    · rename_i hmark
      rw [hmark, Bool.true_and, Option.isSome_eq_false_iff, Option.isNone_iff_eq_none] at h
      rw [h]
    · rfl

theorem withMarkupUpTo_succ {size fuel : Nat} (h : place.markupNext = true)
    (hsize : markupSize? place.chars = some size) :
    withMarkupUpTo (fuel + 1) place = withMarkupUpTo fuel (ofChars
      (place.token.leading ++ [.markup (String.ofList (place.chars.take size))])
      (place.left - size) (place.chars.drop size)) := by
  unfold markupNext at h
  rw [Bool.and_eq_true] at h
  rw [withMarkupUpTo, if_pos h.1, hsize]

theorem exists_markupSize? (h : place.markupNext = true) :
    ∃ size, markupSize? place.chars = some size := by
  unfold markupNext at h
  rw [Bool.and_eq_true] at h
  exact Option.isSome_iff_exists.mp h.2

/-- With enough fuel no line of markup is left: each takes three characters or more. -/
theorem In.markupNext_withMarkupUpTo (h : In text place) {fuel : Nat} (hfuel : place.left ≤ fuel) :
    (place.withMarkupUpTo fuel).markupNext = false := by
  induction fuel generalizing place with
  | zero =>
    have hchars : place.chars = [] := by
      rw [← List.length_eq_zero_iff, ← h.left]
      omega
    rw [Cursor.withMarkupUpTo, markupNext, hchars]
    simp [markupSize?]
  | succ fuel ih =>
    cases hnext : place.markupNext with
    | false => rw [withMarkupUpTo_eq_self hnext, hnext]
    | true =>
      obtain ⟨size, hsize⟩ := exists_markupSize? hnext
      rw [withMarkupUpTo_succ hnext hsize]
      refine ih (h.drop _ _) ?_
      have hbound := three_le_of_markupSize? hsize
      have hleft := h.left
      simp only [ofChars]
      omega

theorem withMarkupUpTo_before (h : place.before = .start) (fuel : Nat) :
    (place.withMarkupUpTo fuel).before = .start := by
  induction fuel generalizing place with
  | zero => exact h
  | succ fuel ih =>
    unfold withMarkupUpTo
    split
    · split
      · exact ih rfl
      · exact h
    · exact h

theorem withMarkup_before (place : Cursor) : place.withMarkup.before = place.before := by
  unfold withMarkup
  split
  · rename_i hstart
    rw [beq_iff_eq] at hstart
    rw [withMarkupUpTo_before hstart, hstart]
  · rfl

theorem In.withMarkup_withMarkup (h : In text place) : place.withMarkup.withMarkup = place.withMarkup := by
  cases hstart : place.before == .start with
  | true =>
    have hnext : place.withMarkup.markupNext = false := by
      rw [Cursor.withMarkup, if_pos hstart]
      exact h.markupNext_withMarkupUpTo (Nat.le_refl _)
    rw [Cursor.withMarkup, if_pos (by rwa [withMarkup_before]), withMarkupUpTo_eq_self hnext]
  | false => rw [Cursor.withMarkup, if_neg (by simp [withMarkup_before, hstart])]

end Cursor

/-! ## How readers answer -/

/-- The place as a form with the ending looks at it: inside marks, lines of markup are remarks. -/
def Ending.view (ending : Ending) (place : Cursor) : Cursor :=
  if ending == .enclosed then place.withMarkup else place

namespace Reader

theorem pure_apply {α : Type} (value : α) (place : Cursor) :
    (pure value : Reader α) place = .ok value place := rfl

theorem bind_apply {α β : Type} (reader : Reader α) (next : α → Reader β) (place : Cursor) :
    (reader >>= next) place =
      match reader place with
      | .ok value rest => next value rest
      | .reject failure => .reject failure
      | .exhausted => .exhausted := rfl

theorem bind_eq_ok_iff {α β : Type} {reader : Reader α} {next : α → Reader β} {place stop : Cursor}
    {found : β} :
    (reader >>= next) place = .ok found stop ↔
      ∃ value rest, reader place = .ok value rest ∧ next value rest = .ok found stop := by
  rw [bind_apply]
  cases reader place <;> simp

theorem ite_apply {α : Type} {c : Prop} [Decidable c] (first second : Reader α) (place : Cursor) :
    (if c then first else second) place = if c then first place else second place := by
  split <;> rfl

theorem accept_apply (test : Token → Bool) (place : Cursor) :
    accept test place =
      if !place.withMarkup.atEnd && test place.withMarkup.token then .ok true place.withMarkup.next
      else .ok false place.withMarkup := by
  simp only [accept, bind_apply, look, ite_apply, goTo, pure_apply]

theorem take_apply (test : Token → Bool) (place : Cursor) :
    take test place =
      if !place.withMarkup.atEnd && test place.withMarkup.token then
        .ok place.withMarkup.token place.withMarkup.next
      else fail place.withMarkup := by
  simp only [take, bind_apply, look, ite_apply, goTo, pure_apply]

theorem mark_apply (text : String) (place : Cursor) :
    mark text place =
      if place.withMarkup.atEnd then missing text place.withMarkup
      else if place.withMarkup.token.isMark text then .ok () place.withMarkup.next
      else fail place.withMarkup := by
  simp only [mark, bind_apply, look, ite_apply, goTo]

theorem follow_apply (test : Token → Bool) (place : Cursor) :
    follow test place =
      if !place.atEnd && test place.token then .ok true place.next else .ok false place := by
  simp only [follow, bind_apply, Reader.place, ite_apply, goTo, pure_apply]

theorem continueWith_apply (ending : Ending) (test : Token → Bool) (place : Cursor) :
    continueWith ending test place =
      if !(ending.view place).atEnd && test (ending.view place).token
          && !ending.isAt (ending.view place) then .ok true (ending.view place).next
      else .ok false (ending.view place) := by
  unfold continueWith Ending.view
  split
  · rename_i hending
    rw [beq_iff_eq] at hending
    subst hending
    simp [accept_apply, Ending.isAt]
  · rename_i hending
    simp only [continuesWith, hending, bind_apply, Reader.place, ite_apply, follow_apply,
      pure_apply, Bool.false_eq_true, if_false]
    cases test place.token <;> cases ending.isAt place <;> cases place.atEnd <;> rfl

theorem settle_apply (ending : Ending) (place : Cursor) :
    settle ending place =
      .ok () (if place.before != .body then { place with before := ending.before } else place) := by
  simp only [settle, bind_apply, Reader.place, ite_apply, leave, goTo, pure_apply]
  split <;> rfl

end Reader

/-! ## What is known of what is read -/

/-- What is known of a value when it is read from a text. -/
class Known (α : Type) where
  known : List Char → α → Prop

export Known (known)

/-- Nothing is known unless something is said. -/
instance (priority := low) knownAnything {α : Type} : Known α := ⟨fun _ _ => True⟩

instance : Known Cursor := ⟨Cursor.In⟩

instance : Known Token := ⟨fun text token => token.text.toList <:+: text⟩

instance {α : Type} [Known α] : Known (List α) := ⟨fun text values => ∀ value ∈ values, known text value⟩

instance {α : Type} [Known α] : Known (Option α) := ⟨fun text found => ∀ value ∈ found, known text value⟩

instance {α β : Type} [Known α] [Known β] : Known (α × β) :=
  ⟨fun text pair => known text pair.1 ∧ known text pair.2⟩

instance {σ α : Type} [Known σ] [Known α] : Known (Reader.Round σ α) where
  known text
    | .again state => known text state
    | .done value => known text value

section Known

variable {text : List Char} {α β σ : Type} [Known α] [Known β] [Known σ]

@[simp]
theorem known_anything {γ : Type} (value : γ) :
    @known γ knownAnything text value := trivial

@[simp]
theorem known_nil : known text ([] : List α) := List.forall_mem_nil _

@[simp]
theorem known_cons {value : α} {values : List α} :
    known text (value :: values) ↔ known text value ∧ known text values := List.forall_mem_cons

@[simp]
theorem known_append {first second : List α} :
    known text (first ++ second) ↔ known text first ∧ known text second := List.forall_mem_append

@[simp]
theorem known_filter {values : List α} (h : known text values) (test : α → Bool) :
    known text (values.filter test) := fun _ hmem => h _ (List.mem_filter.mp hmem).1

@[simp]
theorem known_flatten {lists : List (List α)} (h : known text lists) : known text lists.flatten := by
  intro value hvalue
  obtain ⟨values, hvalues, hmem⟩ := List.mem_flatten.mp hvalue
  exact h values hvalues value hmem

@[simp]
theorem known_none : known text (none : Option α) := by
  intro value h
  cases h

@[simp]
theorem known_some {value : α} : known text (some value) ↔ known text value := by
  constructor
  · intro h
    exact h value rfl
  · intro h found hfound
    cases hfound
    exact h

@[simp]
theorem known_pair {pair : α × β} : known text pair ↔ known text pair.1 ∧ known text pair.2 := Iff.rfl

@[simp]
theorem known_again {state : σ} :
    known text (Reader.Round.again state : Reader.Round σ α) ↔ known text state := Iff.rfl

@[simp]
theorem known_done {value : α} :
    known text (Reader.Round.done value : Reader.Round σ α) ↔ known text value := Iff.rfl

@[simp]
theorem known_ite {c : Prop} [Decidable c] {first second : α} :
    known text (if c then first else second) ↔ (c → known text first) ∧ (¬ c → known text second) := by
  split <;> simp [*]

variable {place : Cursor}

@[simp]
theorem known_next (h : known text place) : known text place.next := Cursor.In.next h

@[simp]
theorem known_skip (h : known text place) (count : Nat) : known text (place.skip count) :=
  Cursor.In.skip h count

@[simp]
theorem known_withMarkup (h : known text place) : known text place.withMarkup :=
  Cursor.In.withMarkup h

@[simp]
theorem known_withBefore (h : known text place) (before : Before) :
    known text { place with before } := Cursor.In.withBefore h before

@[simp]
theorem known_token (h : known text place) : known text place.token := Cursor.In.token_infix h

end Known

/-! ## Readers that agree -/

namespace Reader

section Agree

variable {text : List Char} {α β σ : Type} [Known α] [Known β] [Known σ]

/-- At a place the second reader answers like the first, unless nesting runs out for the first. What
the first reads is known to come from the text, and has a property. -/
def AgreeAt (text : List Char) (few more : Reader α) (place : Cursor) (post : α → Cursor → Prop) :
    Prop :=
  few place = .exhausted ∨
    (more place = few place ∧
      ∀ value rest, few place = .ok value rest → known text value ∧ rest.In text ∧ post value rest)

/-- The second reader answers like the first wherever nesting does not run out for the first, and
what the first reads is known to come from the text. -/
def Agree (text : List Char) (few more : Reader α) : Prop :=
  ∀ place : Cursor, place.In text → AgreeAt text few more place fun _ _ => True

variable {few more : Reader α} {here : Cursor} {post : α → Cursor → Prop}

theorem AgreeAt.imp {post' : α → Cursor → Prop} (h : AgreeAt text few more here post)
    (himp : ∀ value rest, known text value → rest.In text → post value rest → post' value rest) :
    AgreeAt text few more here post' := by
  refine h.imp_right fun ⟨hmore, hknown⟩ => ⟨hmore, fun value rest hok => ?_⟩
  obtain ⟨hvalue, hrest, hpost⟩ := hknown value rest hok
  exact ⟨hvalue, hrest, himp value rest hvalue hrest hpost⟩

/-- What the first reader reads is its answer there. -/
theorem AgreeAt.answers (h : AgreeAt text few more here post) :
    AgreeAt text few more here fun value rest => few here = .ok value rest :=
  h.imp_right fun ⟨hmore, hknown⟩ => ⟨hmore, fun value rest hok =>
    ⟨(hknown value rest hok).1, (hknown value rest hok).2.1, hok⟩⟩

theorem AgreeAt.of_forall {post : Cursor → α → Cursor → Prop}
    (h : ∀ place : Cursor, place.In text → AgreeAt text few more place (post place)) :
    Agree text few more :=
  fun place hplace => (h place hplace).imp fun _ _ _ _ _ => trivial

/-- What agreeing gives for an answer. -/
theorem AgreeAt.of_ok {rest : Cursor} {value : α} (h : AgreeAt text few more here post)
    (hok : few here = .ok value rest) :
    more here = .ok value rest ∧ known text value ∧ rest.In text ∧ post value rest := by
  rcases h with hout | ⟨hmore, hknown⟩
  · rw [hok] at hout
    cases hout
  · exact ⟨hmore.trans hok, hknown value rest hok⟩

/-- A reader agrees with itself where its answers are known. -/
theorem agreeAt_self
    (h : ∀ value rest, few here = .ok value rest →
      known text value ∧ rest.In text ∧ post value rest) : AgreeAt text few few here post :=
  Or.inr ⟨rfl, h⟩

theorem pure_agreeAt {value : α} (hhere : here.In text) (hvalue : known text value)
    (hpost : post value here) : AgreeAt text (pure value) (pure value) here post := by
  apply agreeAt_self
  rintro _ _ ⟨⟩
  exact ⟨hvalue, hhere, hpost⟩

theorem bind_agreeAt {next next' : α → Reader β} {after : β → Cursor → Prop}
    (h : AgreeAt text few more here post)
    (hnext : ∀ value rest, known text value → rest.In text → post value rest →
      AgreeAt text (next value) (next' value) rest after) :
    AgreeAt text (few >>= next) (more >>= next') here after := by
  rcases h with hout | ⟨hmore, hknown⟩
  · exact Or.inl (by simp only [Bind.bind, hout])
  · unfold AgreeAt
    simp only [Bind.bind, hmore]
    cases hfew : few here with
    | exhausted => exact Or.inl rfl
    | reject failure => exact Or.inr ⟨rfl, by rintro _ _ ⟨⟩⟩
    | ok value rest =>
      obtain ⟨hvalue, hrest, hpost⟩ := hknown value rest hfew
      exact hnext value rest hvalue hrest hpost

/-- Rounds that agree make loops that agree, when each round keeps the invariant or ends with the
property. -/
theorem loopUpTo_agreeAt {round round' : σ → Reader (Round σ α)} (invariant : σ → Cursor → Prop)
    (fuel : Nat) {state : σ}
    (h : ∀ (state : σ) (place : Cursor), known text state → place.In text → invariant state place →
      AgreeAt text (round state) (round' state) place fun
        | .again state, rest => invariant state rest
        | .done value, rest => post value rest)
    (hhere : here.In text) (hstate : known text state) (hinvariant : invariant state here) :
    AgreeAt text (loopUpTo round fuel state) (loopUpTo round' fuel state) here post := by
  induction fuel generalizing state here with
  | zero => exact Or.inl rfl
  | succ fuel ih =>
    unfold loopUpTo
    refine bind_agreeAt (h state here hstate hhere hinvariant) fun found rest hfound hrest hpost => ?_
    cases found with
    | again next => exact ih hrest hfound hpost
    | done value => exact pure_agreeAt hrest hfound hpost

theorem loop_agreeAt {round round' : σ → Reader (Round σ α)} (invariant : σ → Cursor → Prop)
    (post : α → Cursor → Prop) {state : σ}
    (h : ∀ (state : σ) (place : Cursor), known text state → place.In text → invariant state place →
      AgreeAt text (round state) (round' state) place fun
        | .again state, rest => invariant state rest
        | .done value, rest => post value rest)
    (hhere : here.In text) (hstate : known text state) (hinvariant : invariant state here) :
    AgreeAt text (loop round state) (loop round' state) here post :=
  loopUpTo_agreeAt invariant (here.left + 2) h hhere hstate hinvariant

end Agree

/-! ## Rules for the forms of readers -/

variable {text : List Char} {α β σ : Type} [Known α] [Known β] [Known σ]

@[simp]
theorem exhausted_agree {more : Reader α} : Agree text exhausted more :=
  fun _ _ => Or.inl rfl

theorem pure_agree {value : α} (h : known text value) :
    Agree text (pure value) (pure value) :=
  fun _ hplace => pure_agreeAt hplace h trivial

@[simp]
theorem pure_agree_iff {value : α} : Agree text (pure value) (pure value) ↔ known text value := by
  refine ⟨fun h => ?_, pure_agree⟩
  have hend := h (Cursor.ofChars [] 0 []) (Cursor.in_ofChars [] rfl (List.nil_suffix))
  exact (hend.of_ok rfl).2.1

@[simp]
theorem fail_agree : Agree text (fail : Reader α) fail := by
  intro place _
  apply agreeAt_self
  rintro _ _ ⟨⟩

@[simp]
theorem missing_agree {mark : String} : Agree text (missing mark : Reader α) (missing mark) := by
  intro place _
  apply agreeAt_self
  rintro _ _ ⟨⟩

@[simp]
theorem place_agree : Agree text place place := by
  intro here hhere
  apply agreeAt_self
  rintro _ _ ⟨⟩
  exact ⟨hhere, hhere, trivial⟩

@[simp]
theorem look_agree : Agree text look look := by
  intro here hhere
  apply agreeAt_self
  rintro _ _ ⟨⟩
  exact ⟨hhere.withMarkup, hhere.withMarkup, trivial⟩

@[simp]
theorem goTo_agree_iff {target : Cursor} :
    Agree text (goTo target) (goTo target) ↔ known text target := by
  constructor
  · intro h
    have hend := h (Cursor.ofChars [] 0 []) (Cursor.in_ofChars [] rfl (List.nil_suffix))
    exact (hend.of_ok rfl).2.2.1
  · intro h here _
    apply agreeAt_self
    rintro _ _ ⟨⟩
    exact ⟨trivial, h, trivial⟩

@[simp]
theorem require_agree {condition : Bool} : Agree text (require condition) (require condition) := by
  unfold require
  split
  · exact pure_agree trivial
  · exact fail_agree

@[gcongr]
theorem bind_agree {few more : Reader α} {next next' : α → Reader β} (h : Agree text few more)
    (hnext : ∀ value, known text value → Agree text (next value) (next' value)) :
    Agree text (few >>= next) (more >>= next') :=
  fun place hplace => bind_agreeAt (h place hplace)
    fun value rest hvalue hrest _ => hnext value hvalue rest hrest

@[gcongr]
theorem ite_agree {c : Prop} [Decidable c] {first first' second second' : Reader α}
    (hfirst : c → Agree text first first') (hsecond : ¬ c → Agree text second second') :
    Agree text (if c then first else second) (if c then first' else second') := by
  split
  · exact hfirst ‹_›
  · exact hsecond ‹_›

@[gcongr]
theorem orElse_agree {first first' second second' : Reader α} (hfirst : Agree text first first')
    (hsecond : Agree text second second') :
    Agree text (orElse first second) (orElse first' second') := by
  intro place hplace
  unfold AgreeAt
  rcases hfirst place hplace with hout | ⟨hmore, hknown⟩
  · exact Or.inl (by simp only [orElse, hout])
  · simp only [orElse, hmore]
    cases hfew : first place with
    | exhausted => exact Or.inl rfl
    | ok value rest => exact Or.inr ⟨rfl, by rintro _ _ ⟨⟩; exact hknown value rest hfew⟩
    | reject failure =>
      rcases hsecond place hplace with hout | ⟨hmore, hknown⟩
      · exact Or.inl (by simp only [hout])
      · simp only [hmore]
        cases hsec : second place with
        | exhausted => exact Or.inl rfl
        | reject other => exact Or.inr ⟨trivial, by rintro _ _ ⟨⟩⟩
        | ok value rest => exact Or.inr ⟨trivial, by rintro _ _ ⟨⟩; exact hknown value rest hsec⟩

@[gcongr]
theorem loop_agree {round round' : σ → Reader (Round σ α)} {state : σ}
    (h : ∀ state, known text state → Agree text (round state) (round' state))
    (hstate : known text state) : Agree text (loop round state) (loop round' state) := by
  intro place hplace
  refine loop_agreeAt (fun _ _ => True) _ ?_ hplace hstate trivial
  intro state place hstate hplace _
  refine (h state hstate place hplace).imp fun found rest _ _ _ => ?_
  cases found <;> trivial

/-! ## Values alone -/

/-- Whatever the reader reads has a property. -/
def Gives {α : Type} (property : α → Prop) (reader : Reader α) : Prop :=
  ∀ place value rest, reader place = .ok value rest → property value

section Gives

variable {α β σ : Type} {property : α → Prop}

theorem gives_pure {value : α} (h : property value) : Gives property (pure value) := by
  rintro place _ _ ⟨⟩
  exact h

theorem gives_fail : Gives property fail := by
  rintro place _ _ ⟨⟩

/-- What the last of two readers gives, given what the first gives. -/
theorem gives_bind (given : β → Prop) {reader : Reader β} {next : β → Reader α}
    (h : Gives given reader) (hnext : ∀ value, given value → Gives property (next value)) :
    Gives property (reader >>= next) := by
  intro place value rest hok
  rw [bind_apply] at hok
  cases hfirst : reader place with
  | ok first middle =>
    rw [hfirst] at hok
    exact hnext first (h place first middle hfirst) middle value rest hok
  | reject failure =>
    rw [hfirst] at hok
    cases hok
  | exhausted =>
    rw [hfirst] at hok
    cases hok

theorem gives_after {reader : Reader β} {next : β → Reader α}
    (hnext : ∀ value, Gives property (next value)) : Gives property (reader >>= next) :=
  gives_bind (fun _ => True) (fun _ _ _ _ => trivial) fun value _ => hnext value

theorem gives_ite {c : Prop} [Decidable c] {first second : Reader α}
    (hfirst : c → Gives property first) (hsecond : ¬ c → Gives property second) :
    Gives property (if c then first else second) := by
  split
  · exact hfirst ‹_›
  · exact hsecond ‹_›

theorem gives_loopUpTo (invariant : σ → Prop) {round : σ → Reader (Round σ α)}
    (h : ∀ state, invariant state → Gives (fun
      | .again state => invariant state
      | .done value => property value) (round state))
    (fuel : Nat) {state : σ} (hstate : invariant state) :
    Gives property (loopUpTo round fuel state) := by
  induction fuel generalizing state with
  | zero => rintro place _ _ ⟨⟩
  | succ fuel ih =>
    unfold loopUpTo
    refine gives_bind _ (h state hstate) fun found hfound => ?_
    cases found with
    | again next => exact ih hfound
    | done value => exact gives_pure hfound

theorem gives_loop (invariant : σ → Prop) {round : σ → Reader (Round σ α)} {state : σ}
    (h : ∀ state, invariant state → Gives (fun
      | .again state => invariant state
      | .done value => property value) (round state))
    (hstate : invariant state) : Gives property (loop round state) :=
  fun place => gives_loopUpTo invariant h (place.left + 2) hstate place

end Gives

theorem Agree.agreeAt {few more : Reader α} {here : Cursor} {property : α → Prop}
    (h : Agree text few more) (hgives : Gives property few) (hhere : here.In text) :
    AgreeAt text few more here fun value _ => property value := by
  refine (h here hhere).imp_right fun ⟨hmore, hknown⟩ => ⟨hmore, fun value rest hok => ?_⟩
  obtain ⟨hvalue, hrest, -⟩ := hknown value rest hok
  exact ⟨hvalue, hrest, hgives here value rest hok⟩

/-! ## Tokens -/

@[simp]
theorem peek_agree : Agree text peek peek := by
  unfold peek
  gcongr <;> simp [*]

@[simp]
theorem nextIs_agree {test : Token → Bool} : Agree text (nextIs test) (nextIs test) := by
  unfold nextIs
  gcongr <;> simp [*]

@[simp]
theorem next_agree : Agree text next next := by
  unfold next
  gcongr <;> simp [*]

@[simp]
theorem accept_agree {test : Token → Bool} : Agree text (accept test) (accept test) := by
  unfold accept
  gcongr <;> simp [*]

@[simp]
theorem acceptMark_agree {mark : String} : Agree text (acceptMark mark) (acceptMark mark) :=
  accept_agree

@[simp]
theorem acceptWord_agree {word : String} : Agree text (acceptWord word) (acceptWord word) :=
  accept_agree

@[simp]
theorem acceptEquals_agree : Agree text acceptEquals acceptEquals := by
  unfold acceptEquals
  gcongr <;> simp [*]

@[simp]
theorem take_agree {test : Token → Bool} : Agree text (take test) (take test) := by
  unfold take
  gcongr <;> simp [*]

@[simp]
theorem mark_agree {mark : String} : Agree text (Reader.mark mark) (Reader.mark mark) := by
  unfold Reader.mark
  gcongr <;> simp [*]

@[simp]
theorem keyword_agree {word : String} : Agree text (keyword word) (keyword word) := by
  unfold keyword
  gcongr <;> simp

@[simp]
theorem word_agree : Agree text word word := by
  unfold word
  gcongr <;> simp

@[simp]
theorem wordBut_agree {words : List String} : Agree text (wordBut words) (wordBut words) := by
  unfold wordBut
  gcongr <;> simp

@[simp]
theorem followsAs_agree {test : Token → Bool} : Agree text (followsAs test) (followsAs test) := by
  unfold followsAs
  gcongr <;> simp

@[simp]
theorem follow_agree {test : Token → Bool} : Agree text (follow test) (follow test) := by
  unfold follow
  gcongr <;> simp [*]

@[simp]
theorem leave_agree {before : Before} : Agree text (leave before) (leave before) := by
  unfold leave
  gcongr <;> simp [*]

/-! ## Runs of tokens -/

@[gcongr]
theorem commaSeparated_agree {close : String} {item item' : Reader α} (h : Agree text item item') :
    Agree text (commaSeparated close item) (commaSeparated close item') := by
  unfold commaSeparated
  dsimp only
  gcongr <;> simp [*]

@[gcongr]
theorem commaSeparated1_agree {item item' : Reader α} (h : Agree text item item') :
    Agree text (commaSeparated1 item) (commaSeparated1 item') := by
  unfold commaSeparated1
  dsimp only
  gcongr <;> simp [*]

@[gcongr]
theorem sparse_agree {close : String} {item item' : Reader Unit} (h : Agree text item item') :
    Agree text (sparse close item) (sparse close item') := by
  unfold sparse
  gcongr <;> simp [*]

/-! ## Ends -/

@[simp]
theorem continuesWith_agree {ending : Ending} {test : Token → Bool} :
    Agree text (continuesWith ending test) (continuesWith ending test) := by
  unfold continuesWith
  gcongr <;> simp

@[simp]
theorem continueWith_agree {ending : Ending} {test : Token → Bool} :
    Agree text (continueWith ending test) (continueWith ending test) := by
  unfold continueWith
  gcongr <;> simp

@[simp]
theorem settle_agree {ending : Ending} : Agree text (settle ending) (settle ending) := by
  unfold settle
  gcongr <;> simp

@[simp]
theorem mayEnd_agree {form : Form} : Agree text (mayEnd form) (mayEnd form) := by
  unfold mayEnd
  gcongr <;> simp

@[simp]
theorem startNew_agree : Agree text startNew startNew := by
  unfold startNew
  gcongr <;> simp

@[simp]
theorem semicolon_agree {form : Form} : Agree text (semicolon form) (semicolon form) := by
  unfold semicolon
  gcongr <;> simp

end Reader

end Facade
