import Codemap.Bundle.Assembly
import Codemap.Proofs.Text.Newlines

namespace Codemap
namespace Bundle

/-!
# Where the description file stands in a bundle

What a bundle says of the description file stands in one place, with the same texts
around it whatever the file holds.  So two bundles that differ in the description file
only are the same text exactly if they say the same of it.
-/

variable {content : Content} {left right : Readme}

theorem closed_line (text : Text) : Text.Closed (line text) :=
  Text.closed_concat text

theorem closed_append_line (before text : Text) : Text.Closed (before ++ line text) := by
  rw [line, ← List.append_assoc]
  exact Text.closed_concat _

theorem closed_readmeSection (readme : Readme) : Text.Closed (readmeSection readme) := by
  cases readme with
  | absent => exact closed_line _
  | unreadable => exact closed_line _
  | text content => exact Text.Closed.append (Text.closed_concat _) (closed_line _)

theorem closed_render (content : Content) : Text.Closed (render content) :=
  closed_line _

/-- What a bundle says before the description file. -/
def opening (content : Content) : Text :=
  heading 1 ("Directory Analysis: ".toList ++ content.name) ++
    line ("Generated: ".toList ++ content.generated) ++ ['\n'] ++
    heading 2 "Table of Contents".toList ++ line "1. [Overview](#overview)".toList ++
    line "2. [Matched Files](#matched-files)".toList ++
    (if content.referencing.isEmpty then []
      else line "3. [Referencing Files](#referencing-files)".toList) ++
    '\n' :: heading 2 "Overview".toList

/-- What a bundle says after the description file. -/
def closing (content : Content) : Text :=
  let count (items : List Item) : Text := Text.ofNat items.length
  let importing :=
    if content.referencing.isEmpty then []
    else
      heading 2 "Referencing Files".toList ++
        line ("Found ".toList ++ count content.referencing ++
          " files that import the matched files:".toList) ++ ['\n'] ++
        fileSections content.root content.referencing
  '\n' :: heading 2 "Matched Files".toList ++
    (line ("Found ".toList ++ count content.matched ++
      " files matching the search patterns:".toList) ++ ['\n'] ++
      fileSections content.root content.matched ++ importing)

theorem closed_opening (content : Content) : Text.Closed (opening content) := by
  have overview : List.getLast? ('\n' :: heading 2 "Overview".toList) = some '\n' := by decide
  rw [Text.Closed, opening, List.getLast?_append, overview]
  exact fun same => absurd (Option.some_inj.mp same) (by decide)

/-- The description file stands between texts that do not depend on it. -/
theorem render_eq (content : Content) : render content =
    opening content ++ readmeSection content.readme ++
      line (Text.trimEnd (closing content)) := by
  obtain ⟨rest, opens⟩ : ∃ rest, opening content = '#' :: rest := ⟨_, rfl⟩
  have whole : render content =
      line (Text.trim (opening content ++ readmeSection content.readme ++ closing content)) := by
    rw [render, opening, closing]
    simp only [List.append_assoc, List.cons_append]
  have visible : ∃ c ∈ closing content, isBlank c = false :=
    ⟨'#', by simp [closing, heading, line], by decide⟩
  have start : Text.trimStart (opening content ++ readmeSection content.readme ++ closing content) =
      opening content ++ readmeSection content.readme ++ closing content := by
    rw [opens, List.cons_append, List.cons_append]
    exact Text.trimStart_cons (by decide) _
  rw [whole, Text.trim, start, Text.trimEnd_append visible, line, line, List.append_assoc]

/-- Bundles that differ in the description file only are the same text, line endings
apart, exactly if they say the same of it. -/
theorem render_readme_iff (content : Content) (left right : Readme) :
    (render { content with readme := left }).unifyNewlines =
        (render { content with readme := right }).unifyNewlines ↔
      (readmeSection left).unifyNewlines = (readmeSection right).unifyNewlines := by
  have pieces (readme : Readme) : (render { content with readme }).unifyNewlines =
      (opening content).unifyNewlines ++ (readmeSection readme).unifyNewlines ++
        (line (Text.trimEnd (closing content))).unifyNewlines := by
    rw [render_eq, Text.unifyNewlines_append, Text.unifyNewlines_append (closed_opening _)]
    · rfl
    · exact (closed_opening _).append (closed_readmeSection readme)
  rw [pieces, pieces, List.append_cancel_right_eq, List.append_cancel_left_eq]

end Bundle
end Codemap
