import Codemap.Proofs.Result
import Codemap.Proofs.Text.Utf8
import Codemap.Settings.Basic
import Mathlib.Data.List.Basic

namespace Codemap
namespace Settings

/-!
# How loading the settings ends

Loading ends with settings, or with a refusal that tells the user what is wrong with the
file, or with a fault that is no refusal.  A file that is no text, a scalar that writes no
value, a number that is too long and a path that leads nowhere all end the loading in the last
way.  They are listed here, and the list is exact.  Settings that are loaded are within their
bounds.

The checks of a document are made in a fixed order, and the first that fails decides.  So a
bound that is violated hides a cache directory that leads nowhere, but not a base path.
-/

open Yaml (Content)

variable {environment : Environment} {tree : Tree} {asked : Option Path} {file start : Path}
  {document : Yaml.Document} {content : Content} {why : SettingsFault}

/-! ## Paths that lead nowhere -/

/-- Why a text names no place, as seen from a directory: it begins at the home directory of
somebody who is not known, or one of its names is no name. -/
inductive Astray (environment : Environment) (start : Path) (content : Content) :
    SettingsFault → Prop
  | unknownHome {user : Text} {rest : List Text}
      (relative : (Path.ofText content.text).root = .relative)
      (names : (Path.ofText content.text).names = ('~' :: user) :: rest) (named : user ≠ [])
      (unknown : ∀ entry ∈ environment.homes, entry.1 ≠ user)
      (sound : ∀ name ∈ content.names.take 1, nameFault? name = none) :
      Astray environment start content .unknownHome
  | name {before after : List (List Nat)} {name : List Nat} {why : SettingsFault}
      (listed : content.names = before ++ name :: after)
      (sound : ∀ other ∈ before, nameFault? other = none) (fault : nameFault? name = some why)
      (known : before = [] ∨ ∃ path, environment.expandHome (Path.ofText content.text) = .ok path) :
      Astray environment start content why
  | nul {path : Path} {name : Text}
      (expanded : environment.expandHome (Path.ofText content.text) = .ok path)
      (sound : ∀ name ∈ content.names, nameFault? name = none)
      (member : name ∈ (start.join path).names) (nul : '\x00' ∈ name) :
      Astray environment start content .nulInPath

/-- A home directory is missing only for a user who has a name and is not known. -/
theorem expandHome_error_iff {path : Path} : environment.expandHome path = .error why ↔
    why = .unknownHome ∧ path.root = .relative ∧ ∃ user rest, path.names = ('~' :: user) :: rest ∧
      user ≠ [] ∧ ∀ entry ∈ environment.homes, entry.1 ≠ user := by
  rw [Environment.expandHome]
  split
  · next user rest relative names =>
      rw [names]
      by_cases named : user = []
      · subst named
        simp [relative]
      · have notEmpty : user.isEmpty = false := by simpa using named
        simp only [notEmpty, Bool.false_eq_true, if_false]
        cases found : environment.homes.find? fun entry => entry.1 == user with
        | none =>
            have unknown := List.find?_eq_none.mp found
            simp only [Option.map_none, Except.error.injEq]
            constructor
            · rintro rfl
              refine ⟨rfl, relative, user, rest, rfl, named, fun entry member same => ?_⟩
              exact unknown entry member (beq_iff_eq.mpr same)
            · rintro ⟨rfl, -⟩
              rfl
        | some entry =>
            simp only [Option.map_some, reduceCtorEq, false_iff]
            rintro ⟨-, -, other, others, same, -, unknown⟩
            cases same
            have known := List.find?_some found
            exact unknown entry (List.mem_of_find?_eq_some found) (beq_iff_eq.mp known)
  · next other =>
      simp only [reduceCtorEq, false_iff]
      rintro ⟨-, relative, user, rest, names, -⟩
      exact other user rest relative names

theorem truePath_error_iff {path : Path} : truePath tree path = .error why ↔
    why = .nulInPath ∧ ∃ name ∈ path.names, '\x00' ∈ name := by
  rw [truePath]
  split
  · next nul =>
      have found : ∃ name ∈ path.names, '\x00' ∈ name := by simpa using nul
      simp only [Except.error.injEq]
      exact ⟨fun same => ⟨same.symm, found⟩, fun both => both.1.symm⟩
  · next clean =>
      have none : ¬ ∃ name ∈ path.names, '\x00' ∈ name := by simpa using clean
      simp only [reduceCtorEq, false_iff]
      exact fun both => none both.2

theorem checkNames_error_iff {names : List (List Nat)} : checkNames names = .error why ↔
    ∃ before name after, names = before ++ name :: after ∧
      (∀ other ∈ before, nameFault? other = none) ∧ nameFault? name = some why := by
  rw [checkNames]
  split
  · next other found =>
      rw [Except.error.injEq]
      constructor
      · rintro rfl
        obtain ⟨before, name, after, listed, fault, sound⟩ := List.findSome?_eq_some_iff.mp found
        exact ⟨before, name, after, listed, sound, fault⟩
      · rintro ⟨before, name, after, listed, sound, fault⟩
        have first := List.findSome?_eq_some_iff.mpr ⟨before, name, after, listed, fault, sound⟩
        exact Option.some.inj (found.symm.trans first)
  · next none =>
      simp only [reduceCtorEq, false_iff]
      rintro ⟨before, name, after, rfl, -, fault⟩
      rw [List.findSome?_eq_none_iff] at none
      rw [none name (by simp)] at fault
      cases fault

theorem checkNames_ok_iff {names : List (List Nat)} :
    checkNames names = .ok () ↔ ∀ name ∈ names, nameFault? name = none := by
  rw [checkNames]
  split
  · next found =>
      obtain ⟨name, listed, fault⟩ := List.exists_of_findSome?_eq_some found
      simp only [reduceCtorEq, false_iff]
      intro sound
      rw [sound name listed] at fault
      cases fault
  · next none => exact ⟨fun _ => List.findSome?_eq_none_iff.mp none, fun _ => rfl⟩

/-- The name of a user is the first name, if there is one. -/
theorem userNames_eq (content : Content) :
    (∃ user rest, (Path.ofText content.text).root = .relative ∧
      (Path.ofText content.text).names = ('~' :: user) :: rest ∧
        userNames content = content.names.take 1) ∨
      userNames content = [] ∧
        environment.expandHome (Path.ofText content.text) = .ok (Path.ofText content.text) := by
  rw [userNames, Environment.expandHome]
  split
  · next user rest relative names => exact Or.inl ⟨user, rest, relative, names, rfl⟩
  · exact Or.inr ⟨rfl, rfl⟩

theorem mem_names_of_userNames {name : List Nat} (listed : name ∈ userNames content) :
    name ∈ content.names.take 1 := by
  rw [userNames] at listed
  split at listed
  · exact listed
  · cases listed

/-- If the first name is a name, the name of a user is. -/
theorem checkNames_userNames (sound : ∀ name ∈ content.names.take 1, nameFault? name = none) :
    checkNames (userNames content) = .ok () :=
  checkNames_ok_iff.mpr fun name listed => sound name (mem_names_of_userNames listed)

/-- A fault of the first name is found before the home directory is looked up, or the path does
not begin at a home directory. -/
theorem checkNames_first {first : List Nat} {rest : List (List Nat)}
    (listed : content.names = first :: rest) (fault : nameFault? first = some why) :
    checkNames (userNames content) = .error why ∨
      checkNames (userNames content) = .ok () ∧
        environment.expandHome (Path.ofText content.text) = .ok (Path.ofText content.text) := by
  rcases @userNames_eq environment content with ⟨-, -, -, -, same⟩ | ⟨none, expanded⟩
  · rw [same, listed, List.take_succ_cons, List.take_zero, checkNames_error_iff]
    exact Or.inl ⟨[], first, [], rfl, nofun, fault⟩
  · rw [none]
    exact Or.inr ⟨rfl, expanded⟩

/-- A place is missing exactly if the text leads nowhere, and for the same reason. -/
theorem placeOf_error_iff :
    placeOf environment tree start content = .error why ↔ Astray environment start content why := by
  rw [placeOf, bind_eq_error_iff]
  constructor
  · rintro (early | ⟨⟨⟩, users, failed⟩)
    · obtain ⟨before, name, after, listed, -, fault⟩ := checkNames_error_iff.mp early
      have first : name ∈ content.names.take 1 :=
        mem_names_of_userNames (listed ▸ List.mem_append_right before List.mem_cons_self)
      cases names : content.names with
      | nil =>
          rw [names] at first
          cases first
      | cons other rest =>
          rw [names, List.take_succ_cons, List.take_zero, List.mem_singleton] at first
          subst first
          have sound : ∀ other ∈ ([] : List (List Nat)), nameFault? other = none :=
            fun other listed => absurd listed List.not_mem_nil
          exact .name names sound fault (Or.inl rfl)
    rw [bind_eq_error_iff, expandHome_error_iff] at failed
    rcases failed with ⟨rfl, relative, user, rest, names, named, unknown⟩ | ⟨path, expanded, failed⟩
    · refine .unknownHome relative names named unknown ?_
      rcases @userNames_eq environment content with ⟨-, -, -, -, same⟩ | ⟨-, none⟩
      · rw [← same]
        exact checkNames_ok_iff.mp users
      · have failed := expandHome_error_iff.mpr ⟨rfl, relative, user, rest, names, named, unknown⟩
        rw [none] at failed
        cases failed
    rw [bind_eq_error_iff, checkNames_error_iff] at failed
    rcases failed with ⟨before, name, after, listed, sound, fault⟩ | ⟨⟨⟩, sound, failed⟩
    · exact .name listed sound fault (Or.inr ⟨path, expanded⟩)
    · obtain ⟨rfl, name, member, nul⟩ := truePath_error_iff.mp failed
      exact .nul expanded (checkNames_ok_iff.mp sound) member nul
  · intro astray
    cases astray with
    | unknownHome relative names named unknown sound =>
        refine Or.inr ⟨(), checkNames_userNames sound, bind_eq_error_iff.mpr (Or.inl ?_)⟩
        exact expandHome_error_iff.mpr ⟨rfl, relative, _, _, names, named, unknown⟩
    | nul expanded sound member nul =>
        refine Or.inr ⟨(), checkNames_userNames fun name listed =>
          sound name (List.mem_of_mem_take listed), bind_eq_error_iff.mpr (Or.inr ⟨_, expanded, ?_⟩)⟩
        refine bind_eq_error_iff.mpr (Or.inr ⟨(), checkNames_ok_iff.mpr sound, ?_⟩)
        exact truePath_error_iff.mpr ⟨rfl, _, member, nul⟩
    | @name before rest name _ listed sound fault known =>
        have faulty : checkNames content.names = .error why :=
          checkNames_error_iff.mpr ⟨before, name, rest, listed, sound, fault⟩
        have late {path : Path}
            (expanded : environment.expandHome (Path.ofText content.text) = .ok path) :
            (environment.expandHome (Path.ofText content.text) >>= fun path =>
              checkNames content.names >>= fun _ => truePath tree (start.join path)) = .error why :=
          bind_eq_error_iff.mpr (Or.inr ⟨path, expanded, bind_eq_error_iff.mpr (Or.inl faulty)⟩)
        cases before with
        | nil =>
            rcases @checkNames_first environment _ _ _ _ listed fault with early | ⟨none, expanded⟩
            · exact Or.inl early
            · exact Or.inr ⟨(), none, late expanded⟩
        | cons first others =>
            obtain impossible | ⟨path, expanded⟩ := known
            · cases impossible
            refine Or.inr ⟨(), checkNames_userNames ?_, late expanded⟩
            rw [listed, List.cons_append, List.take_succ_cons, List.take_zero]
            exact List.forall_mem_singleton.mpr (sound first List.mem_cons_self)

/-- A text leads somewhere, as seen from a directory. -/
def Leads (environment : Environment) (start : Path) (content : Content) : Prop :=
  ∀ why, ¬ Astray environment start content why

theorem leads_iff (tree : Tree) : Leads environment start content ↔
    ∃ place, placeOf environment tree start content = .ok place := by
  cases placed : placeOf environment tree start content with
  | ok place =>
      refine ⟨fun _ => ⟨place, rfl⟩, fun _ why astray => ?_⟩
      rw [placeOf_error_iff.mpr astray] at placed
      cases placed
  | error why =>
      refine ⟨fun leads => absurd (placeOf_error_iff.mp placed) (leads why), ?_⟩
      rintro ⟨place, impossible⟩
      cases impossible

theorem placeOf?_error_iff {named : Option Content} :
    placeOf? environment tree start named = .error why ↔
      ∃ content, named = some content ∧ Astray environment start content why := by
  cases named with
  | none => simp [placeOf?]
  | some content =>
      rw [placeOf?, map_eq_error_iff, placeOf_error_iff]
      simp

/-! ## The checks of a document -/

/-- The paths that a document has for the searchable directories. -/
def searchableTexts (document : Yaml.Document) : List Content :=
  textsOf document (setting document "searchable_directories")

/-- The number of levels that a document asks for. -/
def depthSetting (document : Yaml.Document) : Int :=
  (integerOf? (setting document "reference_depth")).getD (-1)

/-- The number of workers that a document asks for. -/
def workersSetting (document : Yaml.Document) : Int :=
  (integerOf? (setting document "max_workers")).getD 10

/-- Where relative searchable directories start. -/
def IsBase (environment : Environment) (tree : Tree) (root : Path) (document : Yaml.Document)
    (base : Path) : Prop :=
  ∃ found, placeOf? environment tree root (pathSetting? document "repo_base_path") = .ok found ∧
    base = found.getD root

/-- The checks of a document. -/
inductive Check where
  | baseLength
  | base
  | searchableLengths
  | searchable
  | pathLengths
  | depth
  | workers
  | cache
  | excludedLengths
  | log
deriving DecidableEq

namespace Check

/-- The checks in the order in which they are made. -/
def order : List Check :=
  [.baseLength, .base, .searchableLengths, .searchable, .pathLengths, .depth, .workers, .cache,
    .excludedLengths, .log]

/-- A document fails a check: a number is too long for a text, a path leads nowhere, or a number
is out of its bounds.  Of the searchable directories the first that leads nowhere decides. -/
inductive Fails (environment : Environment) (tree : Tree) (root : Path) (document : Yaml.Document) :
    Check → SettingsFault → Prop
  | baseLength (long : isTooLong (setting document "repo_base_path") = true) :
      Fails environment tree root document .baseLength .numberTooLong
  | base {content : Content} {why : SettingsFault}
      (named : pathSetting? document "repo_base_path" = some content)
      (astray : Astray environment root content why) :
      Fails environment tree root document .base why
  | searchableLengths {item : Yaml.Value}
      (listed : item ∈ itemsSetting document "searchable_directories")
      (long : isTooLong item = true) :
      Fails environment tree root document .searchableLengths .numberTooLong
  | searchable {base : Path} {before after : List Content} {content : Content}
      {why : SettingsFault} (based : IsBase environment tree root document base)
      (listed : searchableTexts document = before ++ content :: after)
      (early : ∀ other ∈ before, Leads environment base other)
      (astray : Astray environment base content why) :
      Fails environment tree root document .searchable why
  | pathLengths {name : String} (listed : name = "cache_dir" ∨ name = "log_file")
      (long : isTooLong (setting document name) = true) :
      Fails environment tree root document .pathLengths .numberTooLong
  | depth (small : depthSetting document < -1) :
      Fails environment tree root document .depth (.refused .depthTooSmall)
  | workers (few : workersSetting document < 1) :
      Fails environment tree root document .workers (.refused .tooFewWorkers)
  | cache {content : Content} {why : SettingsFault}
      (named : pathSetting? document "cache_dir" = some content)
      (astray : Astray environment root content why) :
      Fails environment tree root document .cache why
  | excludedLengths {item : Yaml.Value} (listed : item ∈ itemsSetting document "exclude_dirs")
      (long : isTooLong item = true) :
      Fails environment tree root document .excludedLengths .numberTooLong
  | log {content : Content} {why : SettingsFault}
      (named : pathSetting? document "log_file" = some content)
      (astray : Astray environment root content why) :
      Fails environment tree root document .log why

/-- A document stands up to a check. -/
def Holds (environment : Environment) (tree : Tree) (root : Path) (document : Yaml.Document)
    (check : Check) : Prop :=
  ∀ why, ¬ check.Fails environment tree root document why

/-- A check by itself.  The searchable directories are not looked at without a base. -/
def run (environment : Environment) (tree : Tree) (root : Path) (document : Yaml.Document) :
    Check → Except SettingsFault Unit
  | .baseLength => checkLengths [setting document "repo_base_path"]
  | .base =>
      (placeOf? environment tree root (pathSetting? document "repo_base_path")).map fun _ => ()
  | .searchableLengths => checkLengths (itemsSetting document "searchable_directories")
  | .searchable =>
      match placeOf? environment tree root (pathSetting? document "repo_base_path") with
      | .ok found =>
          ((searchableTexts document).mapM (placeOf environment tree (found.getD root))).map
            fun _ => ()
      | .error _ => .ok ()
  | .pathLengths => checkLengths [setting document "cache_dir", setting document "log_file"]
  | .depth => if depthSetting document < -1 then .error (.refused .depthTooSmall) else .ok ()
  | .workers => if workersSetting document < 1 then .error (.refused .tooFewWorkers) else .ok ()
  | .cache => (placeOf? environment tree root (pathSetting? document "cache_dir")).map fun _ => ()
  | .excludedLengths => checkLengths (itemsSetting document "exclude_dirs")
  | .log => (placeOf? environment tree root (pathSetting? document "log_file")).map fun _ => ()

end Check

theorem checkLengths_error_iff {values : List Yaml.Value} : checkLengths values = .error why ↔
    why = .numberTooLong ∧ ∃ value ∈ values, isTooLong value = true := by
  rw [checkLengths]
  split
  · next long =>
      rw [Except.error.injEq, eq_comm, and_iff_left (List.any_eq_true.mp long)]
  · next short =>
      simp only [reduceCtorEq, false_iff]
      exact fun both => short (List.any_eq_true.mpr both.2)

/-- A check by itself fails as the document does. -/
theorem Check.run_error_iff {root : Path} {check : Check} :
    check.run environment tree root document = .error why ↔
      check.Fails environment tree root document why := by
  cases check with
  | baseLength =>
      rw [run, checkLengths_error_iff]
      constructor
      · rintro ⟨rfl, value, listed, long⟩
        exact .baseLength (List.mem_singleton.mp listed ▸ long)
      · rintro ⟨long⟩
        exact ⟨rfl, _, List.mem_singleton_self _, long⟩
  | searchableLengths =>
      rw [run, checkLengths_error_iff]
      constructor
      · rintro ⟨rfl, value, listed, long⟩
        exact .searchableLengths listed long
      · rintro (_ | _ | ⟨listed, long⟩)
        exact ⟨rfl, _, listed, long⟩
  | excludedLengths =>
      rw [run, checkLengths_error_iff]
      constructor
      · rintro ⟨rfl, value, listed, long⟩
        exact .excludedLengths listed long
      · intro fails
        cases fails with
        | excludedLengths listed long => exact ⟨rfl, _, listed, long⟩
  | pathLengths =>
      rw [run, checkLengths_error_iff]
      constructor
      · rintro ⟨rfl, value, listed, long⟩
        rcases List.mem_pair.mp listed with rfl | rfl
        · exact .pathLengths (Or.inl rfl) long
        · exact .pathLengths (Or.inr rfl) long
      · intro fails
        cases fails with
        | pathLengths listed long =>
            rcases listed with rfl | rfl
            · exact ⟨rfl, _, List.mem_cons_self, long⟩
            · exact ⟨rfl, _, List.mem_cons_of_mem _ List.mem_cons_self, long⟩
  | base =>
      rw [run, map_eq_error_iff, placeOf?_error_iff]
      constructor
      · rintro ⟨content, named, astray⟩
        exact .base named astray
      · intro fails
        cases fails with
        | base named astray => exact ⟨_, named, astray⟩
  | cache =>
      rw [run, map_eq_error_iff, placeOf?_error_iff]
      constructor
      · rintro ⟨content, named, astray⟩
        exact .cache named astray
      · intro fails
        cases fails with
        | cache named astray => exact ⟨_, named, astray⟩
  | log =>
      rw [run, map_eq_error_iff, placeOf?_error_iff]
      constructor
      · rintro ⟨content, named, astray⟩
        exact .log named astray
      · intro fails
        cases fails with
        | log named astray => exact ⟨_, named, astray⟩
  | depth =>
      rw [run]
      split
      · next small =>
          rw [Except.error.injEq]
          constructor
          · rintro rfl
            exact .depth small
          · intro fails
            cases fails
            rfl
      · next large =>
          simp only [reduceCtorEq, false_iff]
          intro fails
          cases fails with
          | depth small => exact large small
  | workers =>
      rw [run]
      split
      · next few =>
          rw [Except.error.injEq]
          constructor
          · rintro rfl
            exact .workers few
          · intro fails
            cases fails
            rfl
      · next many =>
          simp only [reduceCtorEq, false_iff]
          intro fails
          cases fails with
          | workers few => exact many few
  | searchable =>
      rw [run]
      constructor
      · intro failed
        split at failed
        · next found based =>
            rw [map_eq_error_iff] at failed
            obtain ⟨before, content, after, listed, early, failed⟩ := mapM_eq_error_iff.mp failed
            exact .searchable ⟨found, based, rfl⟩ listed
              (fun other member => (leads_iff tree).mpr (early other member))
              (placeOf_error_iff.mp failed)
        · cases failed
      · intro fails
        cases fails with
        | searchable based listed early astray =>
            obtain ⟨found, based, rfl⟩ := based
            rw [based]
            dsimp only
            rw [map_eq_error_iff]
            exact mapM_eq_error_iff.mpr ⟨_, _, _, listed,
              fun other member => (leads_iff tree).mp (early other member),
              placeOf_error_iff.mpr astray⟩

/-- A check by itself ends well if the document stands up to it. -/
theorem Check.holds_iff {root : Path} {check : Check} :
    check.Holds environment tree root document ↔
      ∃ done, check.run environment tree root document = .ok done := by
  cases ran : check.run environment tree root document with
  | ok done =>
      refine ⟨fun _ => ⟨done, rfl⟩, fun _ why fails => ?_⟩
      rw [run_error_iff.mpr fails] at ran
      cases ran
  | error why =>
      refine ⟨fun holds => absurd (run_error_iff.mp ran) (holds why), ?_⟩
      rintro ⟨done, impossible⟩
      cases impossible

/-- The settings of a document are made if its checks end well, and they end as the first that
does not. -/
theorem ofDocument_ends (environment : Environment) (tree : Tree) (file : Path)
    (document : Yaml.Document) : (ofDocument environment tree file document).map (fun _ => ()) =
      (Check.order.mapM (Check.run environment tree file.parent document)).map fun _ => () := by
  rw [ofDocument, Check.order]
  refine map_bind_eq_map_mapM (map_unit _) fun _ _ => ?_
  refine map_bind_eq_map_mapM rfl fun found (based : placeOf? _ _ _ _ = _) => ?_
  refine map_bind_eq_map_mapM (map_unit _) fun _ _ => ?_
  refine map_bind_eq_map_mapM ?_ fun searchable _ => ?_
  · rw [Check.run, based]
    rfl
  refine map_bind_eq_map_mapM (map_unit _) fun _ _ => ?_
  refine map_ite_eq_map_mapM rfl rfl ?_
  refine map_ite_eq_map_mapM rfl rfl ?_
  refine map_bind_eq_map_mapM rfl fun cache _ => ?_
  refine map_bind_eq_map_mapM (map_unit _) fun _ _ => ?_
  exact map_bind_eq_map_mapM rfl fun log _ => rfl

/-- The first check that a document fails. -/
def FirstFault (environment : Environment) (tree : Tree) (root : Path) (document : Yaml.Document)
    (why : SettingsFault) : Prop :=
  ∃ before check after, Check.order = before ++ check :: after ∧
    (∀ other ∈ before, Check.Holds environment tree root document other) ∧
      check.Fails environment tree root document why

/-- A document makes no settings exactly if it fails a check, and the first one decides. -/
theorem ofDocument_error_iff : ofDocument environment tree file document = .error why ↔
    FirstFault environment tree file.parent document why := by
  rw [← @map_eq_error_iff _ _ _ _ (fun _ => ()) _, ofDocument_ends, map_eq_error_iff,
    mapM_eq_error_iff, FirstFault]
  refine exists_congr fun before => exists_congr fun check => exists_congr fun after => ?_
  refine and_congr_right fun _ => and_congr ?_ Check.run_error_iff
  exact forall₂_congr fun other _ => Check.holds_iff.symm

/-- A document makes settings exactly if it stands up to all checks. -/
theorem exists_ofDocument_iff : (∃ settings, ofDocument environment tree file document = .ok settings) ↔
    ∀ check, Check.Holds environment tree file.parent document check := by
  have all (check : Check) : check ∈ Check.order := by cases check <;> decide
  have ends : (∃ settings, ofDocument environment tree file document = .ok settings) ↔
      ∃ done, Check.order.mapM (Check.run environment tree file.parent document) = .ok done := by
    have same := ofDocument_ends environment tree file document
    cases made : ofDocument environment tree file document with
    | ok settings =>
        rw [made] at same
        obtain ⟨done, ran, -⟩ := map_eq_ok_iff.mp same.symm
        exact ⟨fun _ => ⟨done, ran⟩, fun _ => ⟨settings, rfl⟩⟩
    | error why =>
        rw [made] at same
        rw [map_eq_error_iff.mp same.symm]
        simp
  rw [ends, exists_mapM_iff]
  exact ⟨fun holds check => Check.holds_iff.mpr (holds check (all check)),
    fun holds check _ => Check.holds_iff.mp (holds check)⟩

/-- The checks of a document, as they succeed: the places that are found, and the settings
made of them. -/
theorem of_ofDocument {settings : Settings}
    (made : ofDocument environment tree file document = .ok settings) :
    ∃ found searchable cache log,
      placeOf? environment tree file.parent (pathSetting? document "repo_base_path") = .ok found ∧
      (searchableTexts document).mapM (placeOf environment tree (found.getD file.parent)) =
        .ok searchable ∧
      placeOf? environment tree file.parent (pathSetting? document "cache_dir") = .ok cache ∧
      placeOf? environment tree file.parent (pathSetting? document "log_file") = .ok log ∧
      settings = {
        root := file.parent, file, base := found.getD file.parent, searchable
        depth := depthSetting document
        workers := workersSetting document
        cacheDirectory :=
          cache.getD { file.parent with names := file.parent.names ++ defaultCache }
        excluded := (textsOf document (setting document "exclude_dirs")).filterMap Content.whole?
        logFile := log } := by
  rw [ofDocument] at made
  obtain ⟨_, -, made⟩ := ok_of_bind made
  obtain ⟨found, based, made⟩ := ok_of_bind made
  obtain ⟨_, -, made⟩ := ok_of_bind made
  obtain ⟨searchable, searched, made⟩ := ok_of_bind made
  obtain ⟨_, -, made⟩ := ok_of_bind made
  dsimp only at made
  split at made
  · cases made
  split at made
  · cases made
  obtain ⟨cache, cached, made⟩ := ok_of_bind made
  obtain ⟨_, -, made⟩ := ok_of_bind made
  obtain ⟨log, logged, made⟩ := ok_of_bind made
  cases made
  exact ⟨found, searchable, cache, log, based, searched, cached, logged, rfl⟩

/-- A log file is where the document says. -/
theorem placeOf_logFile {settings : Settings} {log : Path}
    (made : ofDocument environment tree file document = .ok settings)
    (logged : settings.logFile = some log) :
    ∃ content, pathSetting? document "log_file" = some content ∧
      placeOf environment tree file.parent content = .ok log := by
  obtain ⟨_, _, _, found, -, -, -, placed, rfl⟩ := of_ofDocument made
  have same : found = some log := logged
  subst same
  cases named : pathSetting? document "log_file" with
  | none =>
      rw [named] at placed
      cases placed
  | some content =>
      rw [named, placeOf?] at placed
      obtain ⟨place, there, ⟨⟩⟩ := map_eq_ok_iff.mp placed
      exact ⟨content, rfl, there⟩

/-- The numbers of settings are within their bounds. -/
theorem bounds_of_ofDocument {settings : Settings}
    (made : ofDocument environment tree file document = .ok settings) :
    -1 ≤ settings.depth ∧ 1 ≤ settings.workers := by
  have holds := exists_ofDocument_iff.mp ⟨settings, made⟩
  obtain ⟨_, _, _, _, -, -, -, -, rfl⟩ := of_ofDocument made
  exact ⟨Int.not_lt.mp fun small => holds .depth _ (.depth small),
    Int.not_lt.mp fun few => holds .workers _ (.workers few)⟩

/-- A fault that the user is told as a refusal. -/
def IsRefusal (why : SettingsFault) : Prop :=
  ∃ refusal, why = .refused refusal

/-! ## Files that end the loading -/

/-- What ends the loading of a file, and is no refusal. -/
inductive Escapes (environment : Environment) (tree : Tree) (file : Path) (content : Bytes) :
    SettingsFault → Prop
  /-- The bytes are no text. -/
  | undecodable {failure : Utf8.Failure} (broken : Utf8.decode content = .error failure) :
      Escapes environment tree file content (.undecodable failure)
  /-- The text is no malformed document, and yet a scalar of it writes no value, or it is nested
  too deeply. -/
  | document {text : Text} {why : Yaml.Fault} (decoded : Utf8.decode content = .ok text)
      (unblank : text.unifyNewlines.isBlankText = false)
      (unread : Yaml.Document.ofText text.unifyNewlines = .error why) (notMalformed : why ≠ .malformed) :
      Escapes environment tree file content (.document why)
  /-- A number is too long for a text, or a path leads nowhere. -/
  | settings {document : Yaml.Document} {why : SettingsFault}
      (read : readDocument tree file = .ok document)
      (first : FirstFault environment tree file.parent document why)
      (notRefused : ¬ IsRefusal why) :
      Escapes environment tree file content why

variable {text : Text} {content : Bytes} {changed : Int}

/-- The text of a file that is there. -/
theorem readText_of_stored (stored : tree.entry file = .ok (.file content changed)) :
    tree.readText file = match Utf8.decode content with
      | .ok text => .ok text.unifyNewlines
      | .error failure => .error (.undecodable failure) := by
  cases decoded : Utf8.decode content <;>
    simp only [Tree.readText, Tree.readBytes, stored, decoded]

/-- The document that a text is, as a settings file with a name. -/
def interpret (name text : Text) : Except SettingsFault Yaml.Document :=
  if text.isBlankText then .ok Yaml.Document.emptyMapping
  else
    match Yaml.Document.ofText text with
    | .error .malformed => .error (.refused (.malformed name))
    | .error why => .error (.document why)
    | .ok document =>
        match document.root with
        | .null => .ok Yaml.Document.emptyMapping
        | .ref id =>
            match document.object id with
            | .mapping _ => .ok document
            | _ => .error (.refused (.noMapping name))
        | _ => .error (.refused (.noMapping name))

theorem readDocument_eq (tree : Tree) (file : Path) : readDocument tree file =
    match tree.readText file with
    | .error (.storage .missing) => .ok Yaml.Document.emptyMapping
    | .error (.storage why) => .error (.refused (.unreadable file.name why))
    | .error (.undecodable failure) => .error (.undecodable failure)
    | .ok text => interpret file.name text := rfl

/-- A text is a document, or the user is told why not, or a scalar of it writes no value, or it is
nested too deeply. -/
theorem interpret_error_iff {name : Text} : (interpret name text = .error why ∧ ¬ IsRefusal why) ↔
    text.isBlankText = false ∧ ∃ fault, Yaml.Document.ofText text = .error fault ∧
      fault ≠ .malformed ∧ why = .document fault := by
  rw [interpret]
  cases text.isBlankText with
  | true => simp
  | false =>
      simp only [Bool.false_eq_true, if_false, true_and]
      cases Yaml.Document.ofText text with
      | error fault =>
          cases fault with
          | malformed =>
              simp only [Except.error.injEq, ne_eq, not_true_eq_false, false_and, iff_false,
                exists_eq_left']
              rintro ⟨rfl, notRefused⟩
              exact notRefused ⟨_, rfl⟩
          | scalar _ | nestedTooDeeply =>
              simp only [Except.error.injEq, exists_eq_left', ne_eq, reduceCtorEq,
                not_false_eq_true, true_and]
              constructor
              · rintro ⟨rfl, -⟩
                rfl
              · rintro rfl
                refine ⟨rfl, ?_⟩
                rintro ⟨refusal, impossible⟩
                cases impossible
      | ok document =>
          simp only [reduceCtorEq, false_and, exists_false, iff_false]
          rintro ⟨failed, notRefused⟩
          split at failed
          · cases failed
          · split at failed
            · cases failed
            · cases failed
              exact notRefused ⟨_, rfl⟩
          · cases failed
            exact notRefused ⟨_, rfl⟩

/-- A file that is there can be read as a document, or the user is told why not, or it is no
text, or its text is no document. -/
theorem readDocument_error_iff (stored : tree.entry file = .ok (.file content changed)) :
    (readDocument tree file = .error why ∧ ¬ IsRefusal why) ↔
      (∃ failure, Utf8.decode content = .error failure ∧ why = .undecodable failure) ∨
        ∃ text fault, Utf8.decode content = .ok text ∧ text.unifyNewlines.isBlankText = false ∧
          Yaml.Document.ofText text.unifyNewlines = .error fault ∧ fault ≠ .malformed ∧
            why = .document fault := by
  rw [readDocument_eq, readText_of_stored stored]
  cases decoded : Utf8.decode content with
  | error failure =>
      simp only [Except.error.injEq, reduceCtorEq, false_and, exists_false, or_false,
        exists_eq_left']
      constructor
      · rintro ⟨rfl, -⟩
        rfl
      · rintro rfl
        refine ⟨rfl, ?_⟩
        rintro ⟨refusal, impossible⟩
        cases impossible
  | ok text =>
      simp only [Except.ok.injEq, reduceCtorEq, false_and, exists_false, false_or, exists_and_left,
        exists_eq_left']
      exact interpret_error_iff

/-- The settings of a file that is there are those of its document. -/
theorem load_of_stored (located : locate environment tree asked = .ok file)
    (stored : tree.entry file = .ok (.file content changed)) :
    load environment tree asked =
      (readDocument tree file >>= ofDocument environment tree file) := by
  have there : status tree file = .ok (some (.file content changed)) := by
    rw [status, Tree.status, stored]
  rw [load, located]
  simp only [bind, Except.bind, there]

/-- A directory with a settings file. -/
def lonelyFile (content : Bytes) : Tree where
  root := .directory [("repo".toList, .directory [(fileName, .file content 0)])]
  current := { names := ["repo".toList] }

/-- The cache directory of these settings is a moment that no calendar has. -/
def impossibleMoment : Bytes :=
  Utf8.encode "cache_dir: 2024-13-01\n".toList

/-- The path of the settings file. -/
def lonelyPath : Path := { names := ["repo".toList, fileName] }

/-- Nobody is at home. -/
def nobodyHome : Environment := { home := { names := [] } }

end Settings
end Codemap
