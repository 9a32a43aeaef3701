-- Names are read back from a facade. Without its backticks, the text of a name is the name again,
-- whatever characters the name has, so no two names are written as one.
import Facade.Name
import Facade.Proofs.Text
import Mathlib.Logic.Function.Basic

namespace Facade.Name

/-! ## Texts between backticks -/

/-- A text without the pair of backticks around it, if it has one. -/
def withoutBackticks (text : String) : String :=
  match text.toList with
  | '\x60' :: rest =>
    -- A backtick that stands alone is no pair.
    if rest.getLast? == some '\x60' then String.ofList rest.dropLast else text
  | _ => text

theorem toList_backticked (name : String) :
    (backticked name).toList = '\x60' :: (name.toList ++ ['\x60']) := by
  simp [backticked]

theorem getLast?_backticked (name : String) :
    (backticked name).toList.getLast? = some '\x60' := by
  rw [toList_backticked, ← List.cons_append, List.getLast?_concat]

theorem withoutBackticks_backticked (name : String) :
    withoutBackticks (backticked name) = name := by
  simp [withoutBackticks, toList_backticked]

/-- Every other text stays as it is. -/
theorem withoutBackticks_of_ne {text : String} (h : ∀ name, text ≠ backticked name) :
    withoutBackticks text = text := by
  unfold withoutBackticks
  split
  · rename_i rest htext
    split
    · rename_i hlast
      obtain ⟨front, rfl⟩ := List.getLast?_eq_some_iff.mp (eq_of_beq hlast)
      have hpair : text = backticked (String.ofList front) := by
        rw [← String.toList_inj, toList_backticked, String.toList_ofList, htext]
      exact absurd hpair (h (String.ofList front))
    · rfl
  · rfl

/-- Names that are quoted unless they are plain are read back, under any notion of a plain name that
leaves out the texts between backticks. -/
theorem withoutBackticks_unless_plain {plain : String → Bool}
    (hplain : ∀ name, plain (backticked name) = false) (name : String) :
    withoutBackticks (if plain name then name else backticked name) = name := by
  split
  · rename_i hname
    apply withoutBackticks_of_ne
    rintro inner rfl
    rw [hplain] at hname
    cases hname
  · exact withoutBackticks_backticked name

/-! ## Names that need no backticks -/

/-- No line feed is overlooked behind a backtick at the end, and no name starts with one. -/
theorem hasShape_backticked {start rest : Char → Bool} (hstart : start '\x60' = false)
    (name : String) : hasShape start rest (dropFinalLineFeed (backticked name).toList) = false := by
  rw [dropFinalLineFeed, getLast?_backticked, if_neg (by decide), toList_backticked, hasShape,
    hstart, Bool.false_and]

theorem isPlain_backticked (name : String) : isPlain (backticked name) = false := by
  rw [isPlain, isIdentifier, hasShape_backticked (by decide), Bool.and_false]

theorem isPlainPackage_backticked (name : String) :
    isPlainPackage (backticked name) = false := by
  rw [isPlainPackage, hasShape_backticked (by decide), Bool.false_and]

/-! ## Names and paths -/

theorem withoutBackticks_written (name : String) : withoutBackticks (written name) = name :=
  withoutBackticks_unless_plain isPlain_backticked name

/-- Different names are written differently. -/
theorem written_injective : Function.Injective written :=
  Function.LeftInverse.injective withoutBackticks_written

theorem dot_not_mem_written {name : String} (h : '.' ∉ name.toList) :
    '.' ∉ (written name).toList := by
  unfold written
  split
  · exact h
  · simpa [toList_backticked] using h

/-- The dots of a written path are those of the path. -/
theorem segments_writtenPath (path : String) :
    Text.segments '.' (writtenPath path) = (Text.segments '.' path).map written := by
  have hne : (Text.segments '.' path).map written ≠ [] := by
    rw [Ne, List.map_eq_nil_iff]
    exact Text.segments_ne_nil '.' path
  apply Text.segments_intercalate rfl hne
  intro text htext
  obtain ⟨segment, hsegment, rfl⟩ := List.mem_map.mp htext
  exact dot_not_mem_written (Text.not_mem_of_mem_segments hsegment)

theorem withoutBackticks_writtenPath (path : String) :
    (Text.segments '.' (writtenPath path)).map withoutBackticks = Text.segments '.' path := by
  have hback : withoutBackticks ∘ written = id := funext withoutBackticks_written
  rw [segments_writtenPath, List.map_map, hback, List.map_id]

theorem writtenPath_injective : Function.Injective writtenPath := by
  intro first second h
  have hsegments : Text.segments '.' first = Text.segments '.' second := by
    rw [← withoutBackticks_writtenPath, h, withoutBackticks_writtenPath]
  calc
    first = ".".intercalate (Text.segments '.' first) := (Text.intercalate_segments rfl first).symm
    _ = ".".intercalate (Text.segments '.' second) := by rw [hsegments]
    _ = second := Text.intercalate_segments rfl second

/-! ## Package clauses and setters -/

/-- After its first word, a package clause has the package's name. -/
theorem exists_packageClause_eq (name : String) :
    ∃ text, packageClause name = "package " ++ text ∧ withoutBackticks text = name := by
  refine ⟨if isPlainPackage name then name else backticked name, ?_,
    withoutBackticks_unless_plain isPlainPackage_backticked name⟩
  unfold packageClause
  split <;> rfl

theorem packageClause_injective : Function.Injective packageClause := by
  intro first second h
  obtain ⟨text, htext, hfirst⟩ := exists_packageClause_eq first
  obtain ⟨other, hother, hsecond⟩ := exists_packageClause_eq second
  rw [htext, hother, String.append_right_inj] at h
  rw [← hfirst, h, hsecond]

/-- The mark of a setter stands inside the backticks, if there are any. -/
theorem withoutBackticks_setter (name : String) :
    withoutBackticks (setter name) = name ++ "_=" := by
  unfold setter
  split
  · apply withoutBackticks_of_ne
    intro inner h
    -- The one ends with an equals sign and the other with a backtick.
    have hlast := congrArg (·.toList.getLast?) h
    simp [getLast?_backticked] at hlast
  · exact withoutBackticks_written (name ++ "_=")

theorem setter_injective : Function.Injective setter := by
  intro first second h
  have hmarked : first ++ "_=" = second ++ "_=" := by
    rw [← withoutBackticks_setter, h, withoutBackticks_setter]
  exact (String.append_left_inj "_=").mp hmarked

/-! ## The law of quoted names -/

/-- Every name is read back from the text that stands for it: a name, each segment of a path, the
package of a clause and the property of a setter. So different names, paths, packages and properties
have different texts, also when they hold dots, backticks or line feeds. -/
theorem quoted_names_are_read_back :
    (∀ name, withoutBackticks (written name) = name) ∧
    (∀ path,
      (Text.segments '.' (writtenPath path)).map withoutBackticks = Text.segments '.' path) ∧
    (∀ name, ∃ text, packageClause name = "package " ++ text ∧ withoutBackticks text = name) ∧
    (∀ name, withoutBackticks (setter name) = name ++ "_=") ∧
    Function.Injective written ∧ Function.Injective writtenPath ∧
    Function.Injective packageClause ∧ Function.Injective setter :=
  ⟨withoutBackticks_written, withoutBackticks_writtenPath, exists_packageClause_eq,
    withoutBackticks_setter, written_injective, writtenPath_injective, packageClause_injective,
    setter_injective⟩

-- A segment that is empty is a pair of backticks, and one that is quoted already is quoted again.
example : writtenPath "a.type..`b`" = "a.`type`.``.``b``" ∧
    (Text.segments '.' "a.`type`.``.``b``").map withoutBackticks = ["a", "type", "", "`b`"] := by
  decide

end Facade.Name
