import Codemap.Proofs.Settings.Locality

namespace Codemap
namespace Settings

/-!
# The checks of a settings file

A document makes settings if it stands up to ten checks, and each of them looks at one or two
settings only.  A document that has the same values for these passes the check as well,
whatever else it says.  To the check of the log file belongs here that it is not the settings
file itself, for a command writes its records to it.
-/

open Yaml

/-! ## What documents have for a setting -/

/-- Two documents have the same value for a setting. -/
def SameSetting (left right : Document) (name : String) : Prop :=
  Document.Same { left with root := setting left name } { right with root := setting right name }

section Same

variable {left right : Document}

theorem textOf?_bare (value : Value) : textOf? value.bare = textOf? value := by
  cases value <;> rfl

theorem itemText?_bare (value : Value) : itemText? value.bare = itemText? value := by
  cases value <;> rfl

theorem integerOf?_bare (value : Value) : integerOf? value.bare = integerOf? value := by
  cases value <;> rfl

/-- Values that agree are the same to whoever does not look behind references. -/
theorem eq_of_agrees {α : Type} {read : Value → α} {pairs : Nat → Nat → Prop} {first second : Value}
    (bare : ∀ value : Value, read value.bare = read value)
    (blind : ∀ id other, read (.ref id) = read (.ref other))
    (agrees : Value.Agrees pairs first second) : read first = read second := by
  cases agrees with
  | ref paired => exact blind _ _
  | atom _ same => rw [← bare first, same, bare second]

theorem read_root_of_same {α : Type} {read : Value → α} (same : left.Same right)
    (bare : ∀ value : Value, read value.bare = read value)
    (blind : ∀ id other, read (.ref id) = read (.ref other)) : read left.root = read right.root := by
  obtain ⟨pairs, -, roots⟩ := same
  exact eq_of_agrees bare blind roots

theorem textOf?_of_same (same : left.Same right) : textOf? left.root = textOf? right.root :=
  read_root_of_same same textOf?_bare fun _ _ => rfl

theorem integerOf?_of_same (same : left.Same right) :
    integerOf? left.root = integerOf? right.root :=
  read_root_of_same same integerOf?_bare fun _ _ => rfl

theorem isTooLong_bare (value : Value) : isTooLong value.bare = isTooLong value := by
  cases value <;> rfl

theorem isTooLong_of_same (same : left.Same right) :
    isTooLong left.root = isTooLong right.root :=
  read_root_of_same same isTooLong_bare fun _ _ => rfl

theorem itemsOf_bare (document : Document) (value : Value) :
    itemsOf document value.bare = itemsOf document value := by
  cases value <;> rfl

theorem itemsOf_of_isAtom {value : Value} (atom : value.isAtom = true) (other : Document) :
    itemsOf left value = itemsOf other value := by
  cases value with
  | ref => cases atom
  | _ => rfl

/-- Lists that agree hold the same for whoever does not look behind references. -/
theorem map_eq_of_agrees {α : Type} {read : Value → α} {pairs : Nat → Nat → Prop}
    {first second : List Value} (bare : ∀ value : Value, read value.bare = read value)
    (blind : ∀ id other, read (.ref id) = read (.ref other))
    (each : List.Forall₂ (Value.Agrees pairs) first second) : first.map read = second.map read := by
  induction each with
  | nil => rfl
  | cons agrees _ inductionHypothesis =>
      rw [List.map_cons, List.map_cons, inductionHypothesis, eq_of_agrees bare blind agrees]

theorem map_itemsOf_of_same {α : Type} {read : Value → α} (same : left.Same right)
    (bare : ∀ value : Value, read value.bare = read value)
    (blind : ∀ id other, read (.ref id) = read (.ref other)) :
    (itemsOf left left.root).map read = (itemsOf right right.root).map read := by
  obtain ⟨pairs, paired, roots⟩ := same
  generalize left.root = first at roots
  generalize right.root = second at roots
  cases roots with
  | @ref one two related =>
      have alike := (paired.objects one two related).alike
      dsimp only [itemsOf]
      generalize left.object one = first at alike
      generalize right.object two = second at alike
      cases alike with
      | list each => exact map_eq_of_agrees bare blind each
      | pair each => exact map_eq_of_agrees bare blind each
      | _ => rfl
  | atom atom same =>
      rw [itemsOf_of_isAtom atom right, ← itemsOf_bare, same, itemsOf_bare]

theorem textsOf_of_same (same : left.Same right) :
    textsOf left left.root = textsOf right right.root := by
  have texts := map_itemsOf_of_same same itemText?_bare fun _ _ => rfl
  have found := congrArg (List.filterMap id) texts
  rwa [List.filterMap_map, List.filterMap_map, Function.id_comp] at found

theorem any_isTooLong_of_same (same : left.Same right) :
    (itemsOf left left.root).any isTooLong = (itemsOf right right.root).any isTooLong := by
  have long := map_itemsOf_of_same same isTooLong_bare fun _ _ => rfl
  have found := congrArg (List.any · id) long
  simpa only [List.any_map, Function.id_comp] using found

theorem entriesOf_of_isAtom (atom : left.root.isAtom = true) : entriesOf left = [] := by
  rw [entriesOf]
  split
  · next same =>
      rw [same] at atom
      cases atom
  · rfl

/-- Documents that are the same have the same settings. -/
theorem sameSetting_of_same (same : left.Same right) (name : String) :
    SameSetting left right name := by
  obtain ⟨pairs, paired, roots⟩ := same
  refine ⟨pairs, ⟨paired.unique, paired.objects⟩, ?_⟩
  have found : Option.Rel (Value.Agrees pairs) (Value.look? (entriesOf left) (.str name.toList))
      (Value.look? (entriesOf right) (.str name.toList)) := by
    refine Value.look?_agrees ?_ name.toList
    generalize rootLeft : left.root = first at roots
    generalize rootRight : right.root = second at roots
    cases roots with
    | @ref one two related =>
        have alike := (paired.objects one two related).alike
        simp only [entriesOf, rootLeft, rootRight]
        generalize left.object one = first at alike
        generalize right.object two = second at alike
        cases alike with
        | mapping each => exact each
        | _ => exact .nil
    | atom atom same =>
        have atomToo : second.isAtom = true := by
          rw [← Value.isAtom_bare, ← same, Value.isAtom_bare, atom]
        rw [entriesOf_of_isAtom (rootLeft.symm ▸ atom), entriesOf_of_isAtom (rootRight.symm ▸ atomToo)]
        exact .nil
  dsimp only [setting]
  generalize Value.look? (entriesOf left) _ = first at found
  generalize Value.look? (entriesOf right) _ = second at found
  cases found with
  | none => exact .atom rfl rfl
  | some agrees => exact agrees

theorem pathSetting?_of_same {name : String} (same : SameSetting left right name) :
    pathSetting? left name = pathSetting? right name := by
  rw [pathSetting?, pathSetting?, show textOf? _ = textOf? _ from textOf?_of_same same]

end Same

/-- The value of a setting is found along its name. -/
theorem shownAt_eq {document : Document} (mapping : IsMapping document) (name : String) :
    Edit.shownAt document [name.toList] = { document with root := setting document name } := by
  obtain ⟨id, entries, root, isMapping⟩ := mapping.root
  have found : Edit.lookup? document document.root [name.toList] =
      Value.look? (entriesOf document) (.str name.toList) := by
    simp only [Edit.lookup?, Edit.child?, Edit.container?, entriesOf, root, isMapping]
    cases Value.look? entries (.str name.toList) <;> rfl
  rw [Edit.shownAt, found, setting]

/-! ## Checks -/

namespace Check

/-- The settings that a check looks at. -/
def names : Check → List String
  | .baseLength | .base => ["repo_base_path"]
  | .searchableLengths => ["searchable_directories"]
  | .searchable => ["repo_base_path", "searchable_directories"]
  | .pathLengths => ["cache_dir", "log_file"]
  | .depth => ["reference_depth"]
  | .workers => ["max_workers"]
  | .cache => ["cache_dir"]
  | .excludedLengths => ["exclude_dirs"]
  | .log => ["log_file"]

/-- A document passes a check. -/
structure Passes (environment : Environment) (tree : Tree) (file : Path) (document : Document)
    (check : Check) : Prop where
  holds : check.Holds environment tree file.parent document
  elsewhere : check = .log → ∀ content, pathSetting? document "log_file" = some content →
    placeOf environment tree file.parent content ≠ .ok file

variable {environment : Environment} {tree after : Tree} {file root : Path} {left right : Document}
  {check : Check} {why : SettingsFault}

/-- Where paths lead depends on the current directory and on no file. -/
theorem placeOf_congr (current : after.current = tree.current) :
    placeOf environment after = placeOf environment tree := by
  funext start content
  simp only [placeOf, truePath, current]

/-- A check fails because of the settings that it looks at. -/
theorem Fails.of_same (fails : check.Fails environment after root right why)
    (current : after.current = tree.current)
    (same : ∀ name ∈ check.names, SameSetting left right name) :
    check.Fails environment tree root left why := by
  have path {name : String} (listed : name ∈ check.names) :
      pathSetting? left name = pathSetting? right name := pathSetting?_of_same (same name listed)
  have long {name : String} (listed : name ∈ check.names) :
      isTooLong (setting left name) = isTooLong (setting right name) :=
    isTooLong_of_same (same name listed)
  have number {name : String} (listed : name ∈ check.names) :
      integerOf? (setting left name) = integerOf? (setting right name) :=
    integerOf?_of_same (same name listed)
  have longItem {name : String} {item : Value} (listed : name ∈ check.names)
      (member : item ∈ itemsSetting right name) (tooLong : isTooLong item = true) :
      ∃ other ∈ itemsSetting left name, isTooLong other = true := by
    have there : (itemsSetting right name).any isTooLong = true :=
      List.any_eq_true.mpr ⟨item, member, tooLong⟩
    exact List.any_eq_true.mp ((any_isTooLong_of_same (same name listed)).trans there)
  cases fails with
  | baseLength tooLong => exact .baseLength ((long List.mem_cons_self).trans tooLong)
  | base named astray => exact .base ((path List.mem_cons_self).trans named) astray
  | searchableLengths member tooLong =>
      rcases longItem List.mem_cons_self member tooLong with ⟨item, listed, tooLong⟩
      exact .searchableLengths listed tooLong
  | searchable based listed early astray =>
      obtain ⟨found, placed, rfl⟩ := based
      have texts : searchableTexts left = searchableTexts right :=
        textsOf_of_same (same _ (List.mem_cons_of_mem _ List.mem_cons_self))
      refine .searchable ⟨found, ?_, rfl⟩ (texts.trans listed) early astray
      rw [path List.mem_cons_self, ← placed]
      cases pathSetting? right "repo_base_path" with
      | none => rfl
      | some content => rw [placeOf?, placeOf?, placeOf_congr current]
  | pathLengths listed tooLong =>
      refine .pathLengths listed ((long ?_).trans tooLong)
      rcases listed with rfl | rfl <;> decide
  | depth small => exact .depth (by rwa [depthSetting, number List.mem_cons_self])
  | workers few => exact .workers (by rwa [workersSetting, number List.mem_cons_self])
  | cache named astray => exact .cache ((path List.mem_cons_self).trans named) astray
  | excludedLengths member tooLong =>
      rcases longItem List.mem_cons_self member tooLong with ⟨item, listed, tooLong⟩
      exact .excludedLengths listed tooLong
  | log named astray => exact .log ((path List.mem_cons_self).trans named) astray

/-- Whether a check is passed depends on the settings that it looks at. -/
theorem Passes.of_same (passes : check.Passes environment tree file left)
    (current : after.current = tree.current)
    (same : ∀ name ∈ check.names, SameSetting left right name) :
    check.Passes environment after file right where
  holds why fails := passes.holds why (fails.of_same current same)
  elsewhere := by
    rintro rfl content named
    rw [placeOf_congr current]
    exact passes.elsewhere rfl content
      ((pathSetting?_of_same (same _ List.mem_cons_self)).trans named)

/-- A document that makes settings passes all checks, if the log file of the settings is
another file. -/
theorem passes_of_ofDocument {settings : Settings}
    (made : ofDocument environment tree file left = .ok settings)
    (elsewhere : settings.logFile ≠ some file) (check : Check) :
    check.Passes environment tree file left where
  holds := exists_ofDocument_iff.mp ⟨settings, made⟩ check
  elsewhere := by
    rintro - content named placed
    obtain ⟨found, searchable, cache, log, -, -, -, logged, rfl⟩ := of_ofDocument made
    rw [named, placeOf?, placed] at logged
    exact elsewhere (Except.ok.inj logged).symm

/-- A setting that is absent fails no check. -/
theorem Fails.exists_setting (fails : check.Fails environment tree root left why) :
    ∃ name ∈ check.names, setting left name ≠ .null := by
  have named {name : String} {content : Content} (named : pathSetting? left name = some content) :
      setting left name ≠ .null := by
    intro absent
    rw [pathSetting?, absent] at named
    cases named
  have listed {name : String} (listed : itemsSetting left name ≠ []) :
      setting left name ≠ .null := by
    intro absent
    rw [itemsSetting, absent] at listed
    exact listed rfl
  have long {name : String} (long : isTooLong (setting left name) = true) :
      setting left name ≠ .null := by
    intro absent
    rw [absent] at long
    cases long
  cases fails with
  | baseLength tooLong => exact ⟨_, List.mem_cons_self, long tooLong⟩
  | base there _ | cache there _ | log there _ => exact ⟨_, List.mem_cons_self, named there⟩
  | searchableLengths member _ | excludedLengths member _ =>
      exact ⟨_, List.mem_cons_self, listed (List.ne_nil_of_mem member)⟩
  | searchable based there early astray =>
      refine ⟨_, List.mem_cons_of_mem _ List.mem_cons_self, fun absent => ?_⟩
      rw [searchableTexts, absent] at there
      exact List.append_ne_nil_of_right_ne_nil _ (List.cons_ne_nil _ _) there.symm
  | pathLengths which tooLong =>
      refine ⟨_, ?_, long tooLong⟩
      rcases which with rfl | rfl <;> decide
  | depth small =>
      refine ⟨_, List.mem_cons_self, fun absent => ?_⟩
      rw [depthSetting, absent] at small
      exact absurd small (by decide)
  | workers few =>
      refine ⟨_, List.mem_cons_self, fun absent => ?_⟩
      rw [workersSetting, absent] at few
      exact absurd few (by decide)

/-- A check whose settings are absent is passed. -/
theorem passes_of_absent (absent : ∀ name ∈ check.names, setting left name = .null) :
    check.Passes environment tree file left where
  holds why fails := by
    obtain ⟨name, listed, there⟩ := fails.exists_setting
    exact there (absent name listed)
  elsewhere := by
    rintro rfl content named
    rw [pathSetting?, absent _ List.mem_cons_self] at named
    cases named

/-- The settings that hold by default pass all checks. -/
theorem passes_empty (check : Check) :
    check.Passes environment tree file Document.emptyMapping :=
  passes_of_absent fun _ _ => rfl

end Check
end Settings
end Codemap
