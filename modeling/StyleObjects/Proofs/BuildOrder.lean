import StyleObjects.Proofs.InertSettings
import StyleObjects.Proofs.LastWrites

/-!
# The order of building

A record is built in steps, each of which writes a setting, leaves an object out, or changes the
module.  Which steps are taken and in which order makes no difference, as long as the same is written
last everywhere and the same names are ignored: only the order of the ignored names depends on it,
and neither the sheet nor the dangling names do.

Main results:

- `BuildStep.get?_styles_build`: the objects are the builds of their last writes.
- `BuildStep.mem_dangling_build`: the dangling names of a build, by its steps.
- `BuildStep.build_of_sameWrites`: the same last writes give the same record up to the order of the
  ignored names, with an equal sheet and the same dangling names.
-/

namespace StyleObjects

/-! ## Steps -/

/-- A setting of the whole record that is a text. -/
inductive TextSetting where
  | name
  | prepend
  | version
deriving DecidableEq

/-- A setting that gives selectors to objects. -/
inductive SelectorSetting where
  | overrides
  | combinators
deriving DecidableEq

namespace Record

/-- The text of a setting. -/
def text (r : Record) : TextSetting → Option String
  | .name => r.name
  | .prepend => r.prepend
  | .version => r.version

/-- Sets a text. -/
def withText (r : Record) (value : String) : TextSetting → Record
  | .name => { r with name := some value }
  | .prepend => { r with prepend := some value }
  | .version => { r with version := some value }

/-- The selectors that a setting gives to objects. -/
def selectors (r : Record) : SelectorSetting → Dict String
  | .overrides => r.overrides
  | .combinators => r.combinators

/-- Gives a selector to an object. -/
def withSelector (r : Record) (object selector : String) : SelectorSetting → Record
  | .overrides => r.withOverride object selector
  | .combinators => r.withCombinator object selector

end Record

/-- A step of building a record. -/
inductive BuildStep where
  | text (setting : TextSetting) (value : String)
  | map (value : Bool)
  | selector (setting : SelectorSetting) (object value : String)
  | ignore (object : String)
  /-- Adds an object to the module. -/
  | add (object : String) (body : BodyDraft)
  /-- Takes the module of a list of objects in place of the present one. -/
  | collect (objects : List (String × BodyDraft))

namespace BuildStep

/-- Takes a step. -/
def apply (r : Record) : BuildStep → Record
  | text setting value => r.withText value setting
  | map value => { r with map := value }
  | selector setting object value => r.withSelector object value setting
  | ignore object => r.withIgnored object
  | add object body => { r with styles := r.styles.add object body.build }
  | collect objects => { r with styles := .ofList (objects.map fun o => (o.1, o.2.build)) }

/-- The record that is built from the empty one. -/
def build (steps : List BuildStep) : Record :=
  steps.foldl apply (.ofModule .empty)

/-! ## Writes -/

/-- The text that a step writes to a setting. -/
def text? (setting : TextSetting) : BuildStep → Option String
  | text other value => if other = setting then some value else none
  | _ => none

/-- Whether rules are labelled, if a step writes that. -/
def map? : BuildStep → Option Bool
  | map value => some value
  | _ => none

/-- The selector that a step gives to an object. -/
def selector? (setting : SelectorSetting) (object : String) : BuildStep → Option String
  | selector other name value => if other = setting ∧ name = object then some value else none
  | _ => none

/-- The writes of objects after a step.  Those before a module is taken do not count. -/
def objects (before : List (String × BodyDraft)) : BuildStep → List (String × BodyDraft)
  | add object body => before ++ [(object, body)]
  | collect objects => objects
  | _ => before

/-- The writes of objects that count, in order. -/
def objectWrites (steps : List BuildStep) : List (String × BodyDraft) :=
  steps.foldl objects []

/-- What is written last at a path below an object. -/
def writtenAt (steps : List BuildStep) (object : String) (path : List String) :
    Option (Option PlainValue) :=
  (lastWrite object (objectWrites steps)).bind fun body => (ValueDraft.block body).writtenAt path

/-- Whether two runs of steps write the same last to each setting, to each entry of an object in a
setting, and at each path of the module, and ignore the same names. -/
structure SameWrites (steps steps' : List BuildStep) : Prop where
  text : ∀ setting,
    (steps.filterMap (text? setting)).getLast? = (steps'.filterMap (text? setting)).getLast?
  map : (steps.filterMap map?).getLast? = (steps'.filterMap map?).getLast?
  selector : ∀ setting object, (steps.filterMap (selector? setting object)).getLast? =
    (steps'.filterMap (selector? setting object)).getLast?
  ignore : ∀ object, .ignore object ∈ steps ↔ .ignore object ∈ steps'
  object : ∀ object path, writtenAt steps object path = writtenAt steps' object path

/-- Whether the steps use a name in a setting. -/
def Uses (steps : List BuildStep) : DanglingName → Prop
  | ⟨.overrides, name⟩ => ∃ s, .selector .overrides name s ∈ steps
  | ⟨.combinators, name⟩ => ∃ s, .selector .combinators name s ∈ steps
  | ⟨.ignore, name⟩ => .ignore name ∈ steps

/-- Whether the steps define an object of this name. -/
def Defines (steps : List BuildStep) (object : String) : Prop :=
  ∃ body, (object, body) ∈ objectWrites steps

/-! ## Settings -/

section Build

variable (steps : List BuildStep)

/-- Ignoring an object changes the list of ignored objects alone. -/
theorem withIgnored_eq (r : Record) (object : String) : r.withIgnored object =
    { r with ignore := if r.isIgnored object then r.ignore else r.ignore ++ [object] } := by
  unfold Record.withIgnored
  split <;> rfl

/-- A setting that is a text is the one written last. -/
theorem text_build (setting : TextSetting) :
    (build steps).text setting = (steps.filterMap (text? setting)).getLast? := by
  rw [build, read_foldl apply (fun r => r.text setting) (text? setting)]
  · cases setting <;> exact Option.or_none
  · intro r step
    cases step with
    | text other value => cases other <;> cases setting <;> rfl
    | selector other object value => cases other <;> cases setting <;> rfl
    | ignore object => rw [apply, withIgnored_eq]; cases setting <;> rfl
    | _ => cases setting <;> rfl

/-- Rules are labelled if that is written last. -/
theorem map_build : (build steps).map = (steps.filterMap map?).getLast?.getD false := by
  have hread : some (build steps).map = (steps.filterMap map?).getLast?.or (some false) := by
    rw [build, read_foldl apply (fun r => some r.map) map?]
    · rfl
    · intro r step
      cases step with
      | text setting value => cases setting <;> rfl
      | selector setting object value => cases setting <;> rfl
      | ignore object => rw [apply, withIgnored_eq]; rfl
      | _ => rfl
  rw [Option.or_some] at hread
  exact Option.some.inj hread

/-- An object has the selector written last. -/
theorem get?_selectors_build (setting : SelectorSetting) (object : String) :
    ((build steps).selectors setting).get? object =
      (steps.filterMap (selector? setting object)).getLast? := by
  rw [build, read_foldl apply (fun r => (r.selectors setting).get? object) (selector? setting object)]
  · cases setting <;> exact Option.or_none
  · intro r step
    cases step with
    | text other value => cases other <;> cases setting <;> rfl
    | selector other name value =>
      by_cases hname : name = object <;> cases other <;> cases setting <;>
        simp [apply, selector?, Record.withSelector, Record.selectors, Record.withOverride,
          Record.withCombinator, hname]
    | ignore name => rw [apply, withIgnored_eq]; cases setting <;> rfl
    | _ => cases setting <;> rfl

/-- A selector is set for exactly the objects that some step sets one for. -/
theorem mem_names_selectors_build (setting : SelectorSetting) (object : String) :
    object ∈ ((build steps).selectors setting).names ↔
      ∃ s, .selector setting object s ∈ steps := by
  rw [Dict.mem_names_iff, get?_selectors_build, List.getLast?_isSome]
  constructor
  · intro h
    obtain ⟨s, hs⟩ := List.exists_mem_of_ne_nil _ h
    obtain ⟨step, hstep, hselector⟩ := List.mem_filterMap.1 hs
    cases step with
    | selector other name value =>
      obtain ⟨⟨rfl, rfl⟩, _⟩ := Option.ite_none_right_eq_some.1 hselector
      exact ⟨value, hstep⟩
    | _ => cases hselector
  · rintro ⟨s, hs⟩
    exact List.ne_nil_of_mem (List.mem_filterMap.2 ⟨_, hs, if_pos ⟨rfl, rfl⟩⟩)

end Build

/-! ## Ignored names -/

/-- Whether a record ignores the names that the steps leave out, each once. -/
structure IgnoredBy (steps : List BuildStep) (r : Record) : Prop where
  nodup : r.ignore.Nodup
  mem_iff : ∀ object, object ∈ r.ignore ↔ .ignore object ∈ steps

variable {steps steps' : List BuildStep} {r : Record}

/-- Only ignoring an object changes the list of ignored objects. -/
theorem ignore_apply_of_ne {step : BuildStep} (h : ∀ object, step ≠ ignore object) :
    (apply r step).ignore = r.ignore := by
  cases step with
  | text setting value => cases setting <;> rfl
  | selector setting object value => cases setting <;> rfl
  | ignore object => exact absurd rfl (h object)
  | _ => rfl

/-- Each step keeps the list of ignored objects in line with the steps so far. -/
theorem IgnoredBy.apply (h : IgnoredBy steps r) (step : BuildStep) :
    IgnoredBy (steps ++ [step]) (apply r step) := by
  by_cases hignore : ∃ object, step = ignore object
  · obtain ⟨object, rfl⟩ := hignore
    rw [BuildStep.apply, withIgnored_eq]
    by_cases hmem : object ∈ r.ignore
    · have hignored : r.isIgnored object = true := by simpa [Record.isIgnored] using hmem
      constructor
      · simpa [hignored] using h.nodup
      · intro other
        have hother : other = object → .ignore other ∈ steps := fun heq =>
          (h.mem_iff other).1 (heq ▸ hmem)
        simpa [hignored, h.mem_iff] using hother
    · have hignored : r.isIgnored object = false := by simpa [Record.isIgnored] using hmem
      have hnew : ∀ other ∈ r.ignore, other ≠ object := fun other hother heq => hmem (heq ▸ hother)
      constructor
      · simpa [hignored, List.nodup_append, h.nodup] using hnew
      · intro other
        simp [hignored, h.mem_iff]
  · have hne : ∀ object, step ≠ ignore object := fun object heq => hignore ⟨object, heq⟩
    constructor
    · rw [ignore_apply_of_ne hne]
      exact h.nodup
    · intro object
      rw [ignore_apply_of_ne hne, h.mem_iff]
      simp [(hne object).symm]

/-- So does a run of steps. -/
theorem IgnoredBy.foldl (h : IgnoredBy steps r) (more : List BuildStep) :
    IgnoredBy (steps ++ more) (more.foldl BuildStep.apply r) := by
  induction more generalizing steps r with
  | nil => simpa using h
  | cons step more ih => simpa using ih (h.apply step)

/-- The names that the steps leave out are ignored, each once. -/
theorem ignoredBy_build (steps : List BuildStep) : IgnoredBy steps (build steps) := by
  have hempty : IgnoredBy [] (.ofModule .empty) := ⟨List.nodup_nil, by simp [Record.ofModule]⟩
  exact hempty.foldl steps

/-! ## Objects -/

/-- A step keeps the module the one of the objects that were added so far. -/
theorem styles_apply {before : List (String × BodyDraft)}
    (h : r.styles = .ofList (before.map fun o => (o.1, o.2.build))) (step : BuildStep) :
    (apply r step).styles = .ofList ((objects before step).map fun o => (o.1, o.2.build)) := by
  cases step with
  | text setting value => cases setting <;> exact h
  | selector setting object value => cases setting <;> exact h
  | ignore object => rw [apply, withIgnored_eq]; exact h
  | map value => exact h
  | add object body =>
    rw [apply, objects, h, List.map_append, StyleModule.ofList, StyleModule.ofList, List.foldl_append]
    rfl
  | collect objects => rfl

/-- The module that is built is that of the writes that count. -/
theorem styles_build (steps : List BuildStep) : (build steps).styles =
    .ofList ((objectWrites steps).map fun o => (o.1, o.2.build)) := by
  have hrun (r : Record) (before : List (String × BodyDraft))
      (h : r.styles = .ofList (before.map fun o => (o.1, o.2.build))) :
      (steps.foldl apply r).styles =
        .ofList ((steps.foldl objects before).map fun o => (o.1, o.2.build)) := by
    induction steps generalizing r before with
    | nil => exact h
    | cons step steps ih => exact ih _ _ (styles_apply h step)
  exact hrun _ [] rfl

/-- The objects are the builds of their last writes. -/
theorem get?_styles_build (steps : List BuildStep) (object : String) :
    (build steps).styles.get? object =
      (lastWrite object (objectWrites steps)).map BodyDraft.build := by
  rw [styles_build, StyleModule.get?_ofList, lastWrite_map, Option.map_map]
  congr 1
  funext body
  exact body.build_ordered.sorted_eq_self

/-- The module that is built has exactly the objects that the steps define. -/
theorem has_styles_build (steps : List BuildStep) (object : String) :
    (build steps).styles.has object = true ↔ Defines steps object := by
  rw [StyleModule.has, Dict.contains_iff_mem_names, Dict.mem_names_iff]
  show ((build steps).styles.get? object).isSome = true ↔ _
  rw [get?_styles_build, Option.isSome_map, isSome_lastWrite_iff, Defines]

/-! ## Dangling names -/

/-- The dangling names of a build are those that its steps use in a setting and do not define. -/
theorem mem_dangling_build (steps : List BuildStep) (d : DanglingName) :
    d ∈ (build steps).dangling ↔ Uses steps d ∧ ¬Defines steps d.name := by
  rw [Record.mem_dangling, ← has_styles_build, Bool.not_eq_true]
  refine and_congr_left fun _ => ?_
  have hselectors := mem_names_selectors_build steps
  have hignore := (ignoredBy_build steps).mem_iff
  obtain ⟨setting, name⟩ := d
  cases setting with
  | overrides =>
    simpa [Record.settingNames, Uses, Record.selectors] using hselectors .overrides name
  | combinators =>
    simpa [Record.settingNames, Uses, Record.selectors] using hselectors .combinators name
  | ignore => simpa [Record.settingNames, Uses] using hignore name

/-- No name is listed twice for a setting. -/
theorem nodup_dangling (h : r.ignore.Nodup) : r.dangling.Nodup := by
  have hnames (d : Dict String) : d.names.Nodup := d.names_ascending.imp String.ne_of_lt
  have hmap (setting : Setting) {names : List String} (hnodup : names.Nodup) :
      (names.map (DanglingName.mk setting)).Nodup :=
    List.Pairwise.map _ (fun _ _ hne heq => hne (DanglingName.mk.inj heq).2) hnodup
  refine List.Pairwise.filter _ ?_
  change r.settingNames.Nodup
  rw [Record.settingNames, List.nodup_append, List.nodup_append]
  refine ⟨⟨hmap _ (hnames _), hmap _ (hnames _), ?_⟩, hmap _ h, ?_⟩
  · simp
  · simp only [List.mem_append, List.mem_map]
    rintro _ (⟨name, _, rfl⟩ | ⟨name, _, rfl⟩) _ ⟨other, _, rfl⟩ heq <;> cases heq

/-! ## Runs with the same last writes -/

namespace SameWrites

variable (h : SameWrites steps steps')
include h

/-- Texts that are set depend on the last writes alone. -/
theorem build_text (setting : TextSetting) :
    (build steps).text setting = (build steps').text setting := by
  rw [text_build, text_build, h.text]

theorem build_map : (build steps).map = (build steps').map := by
  rw [map_build, map_build, h.map]

/-- The selectors that are set depend on the last writes alone. -/
theorem build_selectors (setting : SelectorSetting) :
    (build steps).selectors setting = (build steps').selectors setting := by
  apply Dict.ext_get?
  intro object
  rw [get?_selectors_build, get?_selectors_build, h.selector]

/-- Objects in which the same is written last at each path are the same. -/
theorem build_styles : (build steps).styles = (build steps').styles := by
  apply StyleModule.ext
  apply Dict.ext_get?
  intro object
  show (build steps).styles.get? object = (build steps').styles.get? object
  rw [get?_styles_build, get?_styles_build]
  refine map_eq_map_of_looks (fun _ => Option.some_ne_none _) (h.object object) ?_
  intro body body' _ _ hlook
  have hblock := ValueDraft.build_eq_iff.2 hlook
  rw [ValueDraft.build, ValueDraft.build] at hblock
  exact StyleValue.block.inj hblock

/-- The same objects are ignored, in whichever order. -/
theorem mem_ignore_iff (object : String) :
    object ∈ (build steps).ignore ↔ object ∈ (build steps').ignore := by
  rw [(ignoredBy_build steps).mem_iff, (ignoredBy_build steps').mem_iff, h.ignore]

/-- Only the order of the ignored names differs. -/
theorem build_eq : build steps = { build steps' with ignore := (build steps).ignore } := by
  have hname := h.build_text .name
  have hprepend := h.build_text .prepend
  have hversion := h.build_text .version
  have hoverrides := h.build_selectors .overrides
  have hcombinators := h.build_selectors .combinators
  have hmap := h.build_map
  have hstyles := h.build_styles
  simp only [Record.text, Record.selectors] at *
  rw [← hname, ← hprepend, ← hversion, ← hoverrides, ← hcombinators, ← hmap, ← hstyles]

/-- The same names dangle. -/
theorem mem_dangling_iff {d : DanglingName} :
    d ∈ (build steps).dangling ↔ d ∈ (build steps').dangling := by
  have hoverrides := h.build_selectors .overrides
  have hcombinators := h.build_selectors .combinators
  simp only [Record.selectors] at hoverrides hcombinators
  rw [Record.mem_dangling, Record.mem_dangling, h.build_styles]
  simp [Record.settingNames, hoverrides, hcombinators, h.mem_ignore_iff]

end SameWrites

/-- What holds of every record that is built: names and keys ascend, each object is the build of its
last write, no ignored name is repeated, and the dangling names, each listed once, are those that the
steps use in a setting and do not define. -/
structure WellBuilt (steps : List BuildStep) (r : Record) : Prop where
  names : r.styles.names.Pairwise (· < ·)
  keys : ∀ e ∈ r.styles.entries, e.2.Ordered
  object : ∀ object, r.styles.get? object =
    (lastWrite object (objectWrites steps)).map BodyDraft.build
  overrides : r.overrides.names.Pairwise (· < ·)
  combinators : r.combinators.names.Pairwise (· < ·)
  ignore : r.ignore.Nodup
  dangling : r.dangling.Nodup
  mem_dangling : ∀ d, d ∈ r.dangling ↔ Uses steps d ∧ ¬Defines steps d.name

/-- Whatever the steps are, the record is well built. -/
theorem wellBuilt_build (steps : List BuildStep) : WellBuilt steps (build steps) where
  names := (build steps).styles.objects.names_ascending
  keys := (build steps).styles.ordered
  object := get?_styles_build steps
  overrides := (build steps).overrides.names_ascending
  combinators := (build steps).combinators.names_ascending
  ignore := (ignoredBy_build steps).nodup
  dangling := nodup_dangling (ignoredBy_build steps).nodup
  mem_dangling := mem_dangling_build steps

/-- Records that differ in the order of the ignored names compile to the same sheet. -/
theorem compile_withIgnore {r : Record} {names : List String}
    (h : ∀ object, object ∈ names ↔ object ∈ r.ignore) :
    { r with ignore := names }.compile = r.compile := by
  refine Record.SameInput.compile ⟨rfl, rfl, rfl, ?_, fun _ _ => rfl, fun _ _ => rfl⟩
  refine List.filter_congr fun e _ => ?_
  rw [Record.isIgnored, Record.isIgnored, Bool.eq_iff_iff]
  simp [h]

/-- If two runs of steps write the same last everywhere and ignore the same names, they build the same
record up to the order of the ignored names.  Both records are well built, they compile to the same
sheet, and they list the same dangling names. -/
theorem build_of_sameWrites (h : SameWrites steps steps') :
    WellBuilt steps (build steps) ∧
    WellBuilt steps' (build steps') ∧
    build steps = { build steps' with ignore := (build steps).ignore } ∧
    (build steps).ignore.Perm (build steps').ignore ∧
    (build steps).compile = (build steps').compile ∧
    (build steps).dangling.Perm (build steps').dangling := by
  have hbuilt := wellBuilt_build steps
  have hbuilt' := wellBuilt_build steps'
  have hcompile : (build steps).compile = (build steps').compile := by
    rw [h.build_eq]
    exact compile_withIgnore h.mem_ignore_iff
  exact ⟨hbuilt, hbuilt', h.build_eq,
    (List.perm_ext_iff_of_nodup hbuilt.ignore hbuilt'.ignore).2 h.mem_ignore_iff, hcompile,
    (List.perm_ext_iff_of_nodup hbuilt.dangling hbuilt'.dangling).2 fun _ => h.mem_dangling_iff⟩

/-- A declaration built key by key, one of them twice. -/
def sampleBody : BodyDraft :=
  .set (.set (.set .empty "padding" (.plain (.text "8px"))) ":hover"
    (.block (.set (.set .empty "opacity" (.plain (.text "1"))) "color" (.plain (.text "red")))))
    "padding" (.plain (.text "4px"))

/-- The same declaration, built from lists. -/
def sampleListed : BodyDraft :=
  .collect (.cons "padding" (.plain (.text "4px")) (.cons ":hover"
    (.block (.collect (.cons "color" (.plain (.text "red"))
      (.cons "opacity" (.plain (.text "1")) .nil)))) .nil))

/-- Steps that build a record with one object. -/
def sampleSteps : List BuildStep :=
  [.selector .overrides "title" "h2", .text .prepend ".app", .add "card" sampleBody, .ignore "old",
    .ignore "draft", .selector .overrides "title" "h1"]

/-- Other steps with the same last writes. -/
def sampleReordered : List BuildStep :=
  [.ignore "draft", .collect [("card", sampleListed)], .selector .overrides "title" "h1",
    .ignore "old", .text .prepend ".app", .ignore "draft"]

theorem build_of_sameWrites_sample :
    SameWrites sampleSteps sampleReordered ∧
    (build sampleSteps).ignore = ["old", "draft"] ∧
    (build sampleReordered).ignore = ["draft", "old"] ∧
    (build sampleSteps).compile = (build sampleReordered).compile ∧
    (build sampleSteps).dangling.Perm (build sampleReordered).dangling := by
  have hbody : (ValueDraft.block sampleBody).build = (ValueDraft.block sampleListed).build := by
    decide +kernel
  have hsame : SameWrites sampleSteps sampleReordered := by
    refine ⟨fun setting => by cases setting <;> rfl, rfl, ?_, ?_, ?_⟩
    · intro setting object
      by_cases hobject : "title" = object
      · subst hobject
        cases setting <;> rfl
      · simp [sampleSteps, sampleReordered, List.filterMap_cons, selector?, hobject]
    · intro object
      simp [sampleSteps, sampleReordered, or_comm]
    · intro object path
      by_cases hobject : "card" = object
      · subst hobject
        exact ValueDraft.build_eq_iff.1 hbody path
      · simp [writtenAt, objectWrites, objects, lastWrite, sampleSteps, sampleReordered, hobject]
  obtain ⟨_, _, _, _, hcompile, hdangling⟩ := build_of_sameWrites hsame
  exact ⟨hsame, by decide +kernel, by decide +kernel, hcompile, hdangling⟩

end BuildStep

end StyleObjects
