import Colloquy.Config.Read
import Colloquy.Proofs.Entries
import Colloquy.Proofs.SettingLines

/-!
# Configurations as overrides

What a configuration file says is said by each of its keys on its own: `Config.overriddenBy` looks
every known key up and takes the value of the field from there, or leaves it as it is.
-/

namespace Colloquy

open Text Toml

/-! ### Names of modes -/

/-- Files and lines have one name for a mode. -/
theorem TitleMode.nameOfLabel_label (mode : TitleMode) :
    Value.nameOfLabel mode.label = mode.name := by
  cases mode <;> decide

/-- Files and lines have one name for a mode. -/
theorem FooterMode.nameOfLabel_label (mode : FooterMode) :
    Value.nameOfLabel mode.label = mode.name := by
  cases mode <;> decide

/-- A file reads the names that lines read, as the same modes. -/
theorem TitleMode.ofNamed_eq (name : String) :
    Value.ofNamed values label name =
      match ofName? name with
      | some mode => .ok mode
      | none => .error (.unknownName name (values.map TitleMode.name)) := by
  simp only [Value.ofNamed, nameOfLabel_label, ofName?]
  cases values.find? (·.name == name) <;> rfl

/-- A file reads the names that lines read, as the same modes. -/
theorem FooterMode.ofNamed_eq (name : String) :
    Value.ofNamed values label name =
      match ofName? name with
      | some mode => .ok mode
      | none => .error (.unknownName name (values.map FooterMode.name)) := by
  simp only [Value.ofNamed, nameOfLabel_label, ofName?]
  cases values.find? (·.name == name) <;> rfl

/-! ### Single entries -/

namespace Toml

/-- The text of a string. -/
def Value.string? : Value → Option String
  | .string text => some text
  | _ => none

/-- The truth value of a boolean. -/
def Value.boolean? : Value → Option Bool
  | .boolean on => some on
  | _ => none

/-- Whether a value is a string, a boolean or a whole number. -/
def Value.isScalar : Value → Bool
  | .string _ | .boolean _ | .integer _ => true
  | _ => false

namespace Entries

variable {α : Type}

/-- What is read from the value of a key, or a default if there is no such value. -/
def readAt (entries : Entries) (key : String) (read : Value → Option α) (default : α) : α :=
  ((entries.get? key).bind read).getD default

/-- What is read from a single entry. -/
theorem readAt_singleton (key : String) (value : Value) (asked : String) (read : Value → Option α)
    (default : α) :
    readAt [(key, value)] asked read default =
      if key = asked then (read value).getD default else default := by
  by_cases h : key = asked <;> simp [readAt, get?, h]

/-- One entry after another is read. -/
theorem readAt_cons {key : String} {rest : Entries} (h : rest.get? key = none) (value : Value)
    (asked : String) (read : Value → Option α) (default : α) :
    readAt ((key, value) :: rest) asked read default =
      rest.readAt asked read (readAt [(key, value)] asked read default) := by
  rw [readAt_singleton, readAt, readAt, get?_cons]
  split
  next heq => simp [← heq, h]
  next => rfl

end Entries
end Toml

namespace Config

/-- What a key can be given. -/
inductive Kind where
  | text
  | switch
  | titleMode
  | footerMode
  deriving DecidableEq

/-- Texts and switches can be given any string and any boolean, modes the strings that are read as
one. -/
def Kind.takes : Kind → Value → Bool
  | .text, .string _ => true
  | .switch, .boolean _ => true
  | .titleMode, .string name => (TitleMode.ofName? name).isSome
  | .footerMode, .string name => (FooterMode.ofName? name).isSome
  | _, _ => false

/-- The known keys. -/
def knownKeys : List (String × Kind) :=
  [("default_left_title", .text), ("default_right_title", .text), ("default_center_title", .text),
    ("default_left_footer", .text), ("default_right_footer", .text),
    ("default_center_footer", .text), ("default_title_mode", .titleMode),
    ("default_footer_mode", .footerMode), ("default_clean", .switch),
    ("default_render_markdown_title", .switch), ("default_render_markdown_content", .switch),
    ("default_render_markdown_footer", .switch), ("default_render_markdown_comment", .switch),
    ("default_message_max_width", .text), ("default_comment_max_width", .text)]

/-- The configuration with the fields that some entries give, each read off its own key. -/
def overriddenBy (config : Config) (entries : Entries) : Config where
  titles :=
    { left := entries.readAt "default_left_title" Value.string? config.titles.left
      right := entries.readAt "default_right_title" Value.string? config.titles.right
      center := entries.readAt "default_center_title" Value.string? config.titles.center }
  footers :=
    { left := entries.readAt "default_left_footer" Value.string? config.footers.left
      right := entries.readAt "default_right_footer" Value.string? config.footers.right
      center := entries.readAt "default_center_footer" Value.string? config.footers.center }
  presentation :=
    { titleMode := entries.readAt "default_title_mode" (·.string?.bind TitleMode.ofName?)
        config.presentation.titleMode
      footerMode := entries.readAt "default_footer_mode" (·.string?.bind FooterMode.ofName?)
        config.presentation.footerMode
      clean := entries.readAt "default_clean" Value.boolean? config.presentation.clean
      markdown :=
        { title := entries.readAt "default_render_markdown_title" Value.boolean?
            config.presentation.markdown.title
          content := entries.readAt "default_render_markdown_content" Value.boolean?
            config.presentation.markdown.content
          footer := entries.readAt "default_render_markdown_footer" Value.boolean?
            config.presentation.markdown.footer
          comment := entries.readAt "default_render_markdown_comment" Value.boolean?
            config.presentation.markdown.comment }
      messageMaxWidth := entries.readAt "default_message_max_width" Value.string?
        config.presentation.messageMaxWidth
      commentMaxWidth := entries.readAt "default_comment_max_width" Value.string?
        config.presentation.commentMaxWidth }

/-- What the key of a setting can be given. -/
def Field.settingKind : Setting → Kind
  | .titleMode => .titleMode
  | .footerMode => .footerMode
  | .messageMaxWidth | .commentMaxWidth => .text
  | _ => .switch

/-- What the key of a field can be given. -/
def Field.kind : Field → Kind
  | .title _ | .footer _ => .text
  | .setting which => settingKind which

variable {config after : Config} {entries : Entries} {key : String} {value : Value}

/-- Texts are given as strings. -/
theorem Kind.takes_text_iff : Kind.text.takes value ↔ ∃ text, value = .string text := by
  cases value <;> simp [takes]

/-- Switches are given as booleans. -/
theorem Kind.takes_switch_iff : Kind.switch.takes value ↔ ∃ on, value = .boolean on := by
  cases value <;> simp [takes]

/-- Modes are given by their names. -/
theorem Kind.takes_titleMode_iff :
    Kind.titleMode.takes value ↔
      ∃ name mode, value = .string name ∧ TitleMode.ofName? name = some mode := by
  cases value <;> simp [takes, Option.isSome_iff_exists]

/-- Modes are given by their names. -/
theorem Kind.takes_footerMode_iff :
    Kind.footerMode.takes value ↔
      ∃ name mode, value = .string name ∧ FooterMode.ofName? name = some mode := by
  cases value <;> simp [takes, Option.isSome_iff_exists]

/-- A value of the right kind replaces the field of its key, and nothing else is read off it. -/
theorem setField_of_takes (field : Field) (h : field.kind.takes value) :
    config.setField field value = .ok (config.overriddenBy [(field.key, value)]) := by
  cases field with
  | title side | footer side =>
    obtain ⟨text, rfl⟩ := Kind.takes_text_iff.mp h
    cases side <;>
      simp [setField, Value.asString, PerSide.set, overriddenBy, Entries.readAt_singleton,
        Value.string?, Field.key, Side.name]
  | setting setting =>
    cases setting with
    | titleMode =>
      obtain ⟨name, mode, rfl, hmode⟩ := Kind.takes_titleMode_iff.mp h
      simp [setField, Presentation.setValue, Value.asNamed, TitleMode.ofNamed_eq, hmode,
        overriddenBy, Entries.readAt_singleton, Value.string?, Field.key, Field.settingKey]
    | footerMode =>
      obtain ⟨name, mode, rfl, hmode⟩ := Kind.takes_footerMode_iff.mp h
      simp [setField, Presentation.setValue, Value.asNamed, FooterMode.ofNamed_eq, hmode,
        overriddenBy, Entries.readAt_singleton, Value.string?, Field.key, Field.settingKey]
    | messageMaxWidth | commentMaxWidth =>
      obtain ⟨text, rfl⟩ := Kind.takes_text_iff.mp h
      simp [setField, Presentation.setValue, Value.asString, overriddenBy,
        Entries.readAt_singleton, Value.string?, Field.key, Field.settingKey]
    | _ =>
      obtain ⟨on, rfl⟩ := Kind.takes_switch_iff.mp h
      simp [setField, Presentation.setValue, Value.asBoolean, overriddenBy,
        Entries.readAt_singleton, Value.boolean?, Field.key, Field.settingKey]

/-- A scalar of another kind is refused. -/
theorem exists_setField_eq_error (field : Field) (hscalar : value.isScalar)
    (h : ¬field.kind.takes value) : ∃ cause, config.setField field value = .error cause := by
  cases field with
  | title side | footer side =>
    cases value with
    | string text => exact absurd rfl h
    | _ => exact ⟨_, rfl⟩
  | setting setting =>
    cases setting with
    | titleMode =>
      cases value with
      | string name =>
        have hnone : TitleMode.ofName? name = none := Option.not_isSome_iff_eq_none.mp h
        simp [setField, Presentation.setValue, Value.asNamed, TitleMode.ofNamed_eq, hnone]
      | integer number | boolean on => exact ⟨_, rfl⟩
      | _ => cases hscalar
    | footerMode =>
      cases value with
      | string name =>
        have hnone : FooterMode.ofName? name = none := Option.not_isSome_iff_eq_none.mp h
        simp [setField, Presentation.setValue, Value.asNamed, FooterMode.ofNamed_eq, hnone]
      | integer number | boolean on => exact ⟨_, rfl⟩
      | _ => cases hscalar
    | messageMaxWidth | commentMaxWidth =>
      cases value with
      | string text => exact absurd rfl h
      | _ => exact ⟨_, rfl⟩
    | _ =>
      cases value with
      | boolean on => exact absurd rfl h
      | _ => exact ⟨_, rfl⟩

/-! ### Known keys -/

/-- Every field has a key, and that key is the field's. -/
theorem Field.ofKey?_key (field : Field) : ofKey? field.key = some field := by
  cases field with
  | title side | footer side => cases side <;> decide
  | setting setting => cases setting <;> decide

/-- The field of a key has that key. -/
theorem Field.key_of_ofKey? {field : Field} (h : ofKey? key = some field) : field.key = key := by
  have hkey := List.find?_some h
  exact beq_iff_eq.mp hkey

/-- Known keys are those of the fields. -/
theorem mem_knownKeys_iff {kind : Kind} :
    (key, kind) ∈ knownKeys ↔ ∃ field, Field.ofKey? key = some field ∧ field.kind = kind := by
  have hkeys : knownKeys = Field.all.map fun field ↦ (field.key, field.kind) := rfl
  simp only [hkeys, List.mem_map, Prod.mk.injEq]
  constructor
  · rintro ⟨field, -, rfl, rfl⟩
    exact ⟨field, field.ofKey?_key, rfl⟩
  · rintro ⟨field, hfield, rfl⟩
    exact ⟨field, List.mem_of_find?_eq_some hfield, Field.key_of_ofKey? hfield, rfl⟩

/-- A condition on what the known keys are given. -/
def EachKnown (condition : Kind → Value → Bool) (entries : Entries) : Prop :=
  ∀ entry ∈ entries, ∀ known ∈ knownKeys, known.1 = entry.1 → condition known.2 entry.2

instance (condition : Kind → Value → Bool) (entries : Entries) :
    Decidable (EachKnown condition entries) :=
  inferInstanceAs (Decidable (∀ entry ∈ entries, ∀ known ∈ knownKeys, _ → _))

section
variable {condition : Kind → Value → Bool} {field : Field} {rest : Entries}

/-- No condition is put on what an unknown key is given. -/
theorem eachKnown_cons_of_unknown (h : Field.ofKey? key = none) :
    EachKnown condition ((key, value) :: rest) ↔ EachKnown condition rest := by
  rw [EachKnown, List.forall_mem_cons, and_iff_right, EachKnown]
  rintro ⟨_, kind⟩ hkind rfl
  obtain ⟨field, hfield, -⟩ := mem_knownKeys_iff.mp hkind
  rw [h] at hfield
  cases hfield

/-- What a known key is given has to be right for the kind of its field. -/
theorem eachKnown_cons_of_known (h : Field.ofKey? key = some field) :
    EachKnown condition ((key, value) :: rest) ↔
      condition field.kind value ∧ EachKnown condition rest := by
  have hfirst : (∀ known ∈ knownKeys, known.1 = key → condition known.2 value) ↔
      condition field.kind value := by
    constructor
    · intro hall
      exact hall (key, field.kind) (mem_knownKeys_iff.mpr ⟨field, h, rfl⟩) rfl
    · rintro hcondition ⟨_, kind⟩ hkind rfl
      obtain ⟨_, hfield, rfl⟩ := mem_knownKeys_iff.mp hkind
      rw [h] at hfield
      cases hfield
      exact hcondition
  rw [EachKnown, List.forall_mem_cons, hfirst, EachKnown]

end

/-- What is read depends on the values of the known keys only. -/
theorem overriddenBy_congr {other : Entries}
    (h : ∀ asked ∈ knownKeys.map Prod.fst, other.get? asked = entries.get? asked) :
    config.overriddenBy other = config.overriddenBy entries := by
  have hread : ∀ {α : Type} (asked : String) (read : Value → Option α) (default : α),
      asked ∈ knownKeys.map Prod.fst →
        other.readAt asked read default = entries.readAt asked read default := by
    intro α asked read default hasked
    rw [Entries.readAt, Entries.readAt, h asked hasked]
  simp (disch := decide) only [overriddenBy, hread]

/-- An unknown key overrides nothing. -/
theorem overriddenBy_of_unknown (h : Field.ofKey? key = none) :
    config.overriddenBy [(key, value)] = config := by
  have hnone : ∀ asked ∈ knownKeys.map Prod.fst,
      Entries.get? [(key, value)] asked = Entries.get? [] asked := by
    intro asked hasked
    obtain ⟨⟨_, kind⟩, hkind, rfl⟩ := List.mem_map.mp hasked
    obtain ⟨field, hfield, -⟩ := mem_knownKeys_iff.mp hkind
    rw [Entries.get?_cons, if_neg]
    rintro rfl
    rw [h] at hfield
    cases hfield
  exact overriddenBy_congr hnone

/-- Entries override a configuration one after another. -/
theorem overriddenBy_cons {rest : Entries} (h : rest.get? key = none) :
    config.overriddenBy ((key, value) :: rest) =
      (config.overriddenBy [(key, value)]).overriddenBy rest := by
  simp only [overriddenBy, Entries.readAt_cons h]

/-! ### Reading entries -/

/-- An unknown key is passed over. -/
theorem withEntries_cons_of_unknown {rest : Entries} (h : Field.ofKey? key = none) :
    config.withEntries ((key, value) :: rest) = config.withEntries rest := by
  simp only [withEntries, List.foldlM_cons, h]
  rfl

/-- What a known key is given goes to its field. -/
theorem withEntries_cons_of_known {field : Field} {rest : Entries}
    (h : Field.ofKey? key = some field) :
    config.withEntries ((key, value) :: rest) =
      config.setField field value >>= (·.withEntries rest) := by
  simp only [withEntries, List.foldlM_cons, h]

/-- Entries with distinct keys are read exactly when every known key is given what it takes, and
then they override the configuration. The order in which they are read does not show. -/
theorem withEntries_eq_ok_iff (hkeys : entries.HasDistinctKeys)
    (hscalar : EachKnown (fun _ value ↦ value.isScalar) entries) :
    config.withEntries entries = .ok after ↔
      EachKnown Kind.takes entries ∧ after = config.overriddenBy entries := by
  induction entries generalizing config with
  | nil =>
    have htakes : EachKnown Kind.takes [] := fun _ hmem ↦ nomatch hmem
    rw [and_iff_right htakes]
    constructor
    · rintro ⟨⟩
      rfl
    · rintro rfl
      rfl
  | cons entry rest ih =>
    obtain ⟨key, value⟩ := entry
    obtain ⟨hnew, hrest⟩ := List.nodup_cons.mp hkeys
    rw [overriddenBy_cons (Entries.get?_eq_none_iff.mpr hnew)]
    rcases hfield : Field.ofKey? key with _ | field
    · rw [eachKnown_cons_of_unknown hfield] at hscalar ⊢
      rw [withEntries_cons_of_unknown hfield, overriddenBy_of_unknown hfield]
      exact ih hrest hscalar
    · rw [eachKnown_cons_of_known hfield] at hscalar ⊢
      rw [withEntries_cons_of_known hfield]
      by_cases htakes : field.kind.takes value
      · rw [setField_of_takes field htakes, Field.key_of_ofKey? hfield, and_iff_right htakes]
        exact ih hrest hscalar.2
      · obtain ⟨cause, hcause⟩ : ∃ cause, config.setField field value = .error cause :=
          exists_setField_eq_error field hscalar.1 htakes
        rw [hcause]
        constructor
        · intro h
          cases h
        · rintro ⟨⟨h, -⟩, -⟩
          exact absurd h htakes

/-! ### Reading configuration files -/

section
variable {read : String → Option Entries} {text file : String} {other : Entries}

/-- A text is read as its entries are. -/
theorem parseBy_of_read (hread : read text = some entries) :
    parseBy read text = (ofEntries entries).mapError .mismatch := by
  simp only [parseBy, hread]
  cases ofEntries entries <;> rfl

/-- A text is read exactly when every known key is given what it takes. -/
theorem parseBy_eq_ok_iff (hread : read text = some entries) (hkeys : entries.HasDistinctKeys)
    (hscalar : EachKnown (fun _ value ↦ value.isScalar) entries) :
    parseBy read text = .ok config ↔
      EachKnown Kind.takes entries ∧ config = default.overriddenBy entries := by
  rw [← withEntries_eq_ok_iff hkeys hscalar, parseBy_of_read hread, ofEntries]
  cases default.withEntries entries <;> simp [Except.mapError]

/-- Two lists of entries that say the same of the known keys. -/
def AgreeOnKnown (other entries : Entries) : Prop :=
  ∀ key ∈ knownKeys.map Prod.fst, ∀ value, (key, value) ∈ other ↔ (key, value) ∈ entries

/-- A condition on the known keys is one on what is said of them. -/
theorem AgreeOnKnown.eachKnown_iff (h : AgreeOnKnown other entries)
    {condition : Kind → Value → Bool} :
    EachKnown condition other ↔ EachKnown condition entries := by
  have hmem : ∀ known ∈ knownKeys, ∀ value, (known.1, value) ∈ other ↔ (known.1, value) ∈ entries :=
    fun known hknown ↦ h known.1 (List.mem_map_of_mem hknown)
  constructor
  · rintro hother ⟨_, value⟩ hentry known hknown rfl
    exact hother _ ((hmem known hknown value).mpr hentry) known hknown rfl
  · rintro hentries ⟨_, value⟩ hentry known hknown rfl
    exact hentries _ ((hmem known hknown value).mp hentry) known hknown rfl

/-- Texts that say the same of the known keys are read alike. -/
theorem AgreeOnKnown.parseBy_eq_ok_iff (h : AgreeOnKnown other entries)
    (hread : read text = some entries) (hkeys : entries.HasDistinctKeys)
    (hscalar : EachKnown (fun _ value ↦ value.isScalar) entries)
    (hfile : read file = some other) (hother : other.HasDistinctKeys) :
    parseBy read file = .ok config ↔ parseBy read text = .ok config := by
  have hoverrides : default.overriddenBy other = default.overriddenBy entries :=
    overriddenBy_congr fun asked hasked ↦ hkeys.get?_congr hother (h asked hasked)
  rw [Config.parseBy_eq_ok_iff hfile hother (h.eachKnown_iff.mpr hscalar),
    Config.parseBy_eq_ok_iff hread hkeys hscalar, h.eachKnown_iff, hoverrides]

/-- The title of a side is read off the key of that side. -/
theorem get_titles_overriddenBy (side : Side) :
    (config.overriddenBy entries).titles.get side =
      entries.readAt ("default_" ++ side.name ++ "_title") Value.string?
        (config.titles.get side) := by
  cases side <;> rfl

/-- The footer of a side is read off the key of that side. -/
theorem get_footers_overriddenBy (side : Side) :
    (config.overriddenBy entries).footers.get side =
      entries.readAt ("default_" ++ side.name ++ "_footer") Value.string?
        (config.footers.get side) := by
  cases side <;> rfl

/-! ### Modes in files and on lines -/

/-- What became of reading a file and of changing a session: both have the same mode now, or neither
took the name. -/
inductive TookAlike (session : Session) : Setting → Except Error Config → Session × Option Fault →
    Prop
  | titleMode (mode : TitleMode) :
    TookAlike session .titleMode (.ok { default with presentation.titleMode := mode })
      ({ session with presentation.titleMode := mode }, none)
  | footerMode (mode : FooterMode) :
    TookAlike session .footerMode (.ok { default with presentation.footerMode := mode })
      ({ session with presentation.footerMode := mode }, none)
  | refused (setting : Setting) (cause : Error) (fault : Fault) :
    TookAlike session setting (.error cause) (session, some fault)

/-- A file with one mode in it is read as a session takes the name of the mode. -/
theorem tookAlike_applySetting {setting : Setting} {name : String}
    (hsetting : setting = .titleMode ∨ setting = .footerMode)
    (hfile : read file = some [(Field.settingKey setting, .string name)]) (session : Session) :
    TookAlike session setting (parseBy read file) (session.applySetting setting name) := by
  have hfield : Field.ofKey? (Field.settingKey setting) = some (.setting setting) :=
    Field.ofKey?_key (.setting setting)
  rw [parseBy_of_read hfile, ofEntries, withEntries_cons_of_known hfield]
  obtain rfl | rfl := hsetting
  · simp only [setField, Presentation.setValue, Value.asNamed, TitleMode.ofNamed_eq,
      Session.applySetting, Presentation.set]
    cases TitleMode.ofName? name with
    | none => exact .refused _ _ _
    | some mode => exact .titleMode mode
  · simp only [setField, Presentation.setValue, Value.asNamed, FooterMode.ofNamed_eq,
      Session.applySetting, Presentation.set]
    cases FooterMode.ofName? name with
    | none => exact .refused _ _ _
    | some mode => exact .footerMode mode

/-- A configuration file replaces fields of the default configuration, each by what its own key is
given. The file is read exactly when every known key is given what it takes; neither the order of
the entries nor what unknown keys are given makes a difference. Titles and footers are those of
their side, and the names of modes are those that sessions and lines take. -/
theorem parseBy_overrides (hread : read text = some entries) (hkeys : entries.HasDistinctKeys)
    (hscalar : EachKnown (fun _ value ↦ value.isScalar) entries) :
    (∀ config, parseBy read text = .ok config ↔
      EachKnown Kind.takes entries ∧ config = default.overriddenBy entries) ∧
    (∀ file other, read file = some other → other.Perm entries →
      ∀ config, parseBy read file = .ok config ↔ parseBy read text = .ok config) ∧
    (∀ file other, read file = some other → other.HasDistinctKeys → AgreeOnKnown other entries →
      ∀ config, parseBy read file = .ok config ↔ parseBy read text = .ok config) ∧
    (∀ config, parseBy read text = .ok config → ∀ side : Side,
      config.titles.get side =
        entries.readAt ("default_" ++ side.name ++ "_title") Value.string? "" ∧
      config.footers.get side =
        entries.readAt ("default_" ++ side.name ++ "_footer") Value.string? "") ∧
    ∀ setting, setting = .titleMode ∨ setting = .footerMode →
      ∀ file name, read file = some [(Field.settingKey setting, .string name)] →
        ∀ session : Session,
          TookAlike session setting (parseBy read file) (session.applySetting setting name) ∧
          ∀ keyword line span, SameLetters keyword.toList setting.keyword.toList →
            String.ofList (lowercase (trim line.toList)) = name →
              let effect := session.execute ⟨.classify (keyword ++ ":" ++ line), span⟩
              TookAlike session setting (parseBy read file) (effect.session, effect.fault) := by
  refine ⟨fun config ↦ parseBy_eq_ok_iff hread hkeys hscalar, ?_, ?_, ?_, ?_⟩
  · intro file other hfile hperm config
    have hagree : AgreeOnKnown other entries := fun key _ value ↦ hperm.mem_iff
    exact hagree.parseBy_eq_ok_iff hread hkeys hscalar hfile (hkeys.perm hperm)
  · intro file other hfile hother hagree config
    exact hagree.parseBy_eq_ok_iff hread hkeys hscalar hfile hother
  · intro config hconfig side
    obtain ⟨-, rfl⟩ := (parseBy_eq_ok_iff hread hkeys hscalar).mp hconfig
    rw [get_titles_overriddenBy, get_footers_overriddenBy]
    cases side <;> exact ⟨rfl, rfl⟩
  · intro setting hsetting file name hfile session
    refine ⟨tookAlike_applySetting hsetting hfile session, ?_⟩
    rintro keyword line span hkeyword rfl
    have hvalue : Directive.valueOf setting line.toList =
        String.ofList (lowercase (trim line.toList)) := by
      obtain rfl | rfl := hsetting <;> rfl
    rw [Directive.classify_settingLine hkeyword, hvalue, Session.execute_setting]
    exact tookAlike_applySetting hsetting hfile session

end

/-- A switch, a mode and a title, after a key that is not known. -/
def castText : String :=
  "cast = 2\ndefault_clean = true\ndefault_title_mode = \"all\"\ndefault_left_title = \"Ann\"\n"

/-- The three known keys replace their fields of the default configuration, and the other is passed
over. -/
theorem parseBy_overrides_castText :
    ∃ entries, Toml.parse castText = some entries ∧ entries.HasDistinctKeys ∧
      EachKnown (fun _ value ↦ value.isScalar) entries ∧
      parse castText = .ok { default with
        titles.left := "Ann", presentation.titleMode := .all, presentation.clean := true } := by
  have hsome : (Toml.parse castText).isSome := by decide +kernel
  have hscalar : EachKnown (fun _ value ↦ value.isScalar) ((Toml.parse castText).getD []) := by
    decide +kernel
  obtain ⟨entries, hread⟩ := Option.isSome_iff_exists.mp hsome
  have htakes : EachKnown Kind.takes ((Toml.parse castText).getD []) := by decide +kernel
  have hconfig : { default with
      titles.left := "Ann", presentation.titleMode := .all, presentation.clean := true } =
        default.overriddenBy ((Toml.parse castText).getD []) := by
    decide +kernel
  rw [hread] at hscalar htakes hconfig
  have hkeys := hasDistinctKeys_parse hread
  obtain ⟨hok, -⟩ := parseBy_overrides hread hkeys hscalar
  refine ⟨entries, hread, hkeys, hscalar, ?_⟩
  rw [parse, hok]
  exact ⟨htakes, hconfig⟩

end Config
end Colloquy
