import Colloquy.Config.Basic
import Colloquy.Toml.Decode
import Colloquy.Toml.Document

/-!
# Reading configurations

A configuration file is a TOML document. Each of its known keys replaces one field of the default
configuration; other keys are ignored. The first known key with an unfit value, in the order of
the document, is the one that is reported.
-/

namespace Colloquy

open Toml

namespace Presentation

/-- Give a setting the value of a configuration key. -/
def setValue (presentation : Presentation) (setting : Setting) (value : Value) :
    Except Mismatch Presentation := do
  match setting with
  | .titleMode =>
    let mode ← value.asNamed TitleMode.values TitleMode.label
    return { presentation with titleMode := mode }
  | .footerMode =>
    let mode ← value.asNamed FooterMode.values FooterMode.label
    return { presentation with footerMode := mode }
  | .messageMaxWidth => return { presentation with messageMaxWidth := ← value.asString }
  | .commentMaxWidth => return { presentation with commentMaxWidth := ← value.asString }
  | .clean => return { presentation with clean := ← value.asBoolean }
  | .renderMarkdownTitle =>
    let on ← value.asBoolean
    return { presentation with markdown := { presentation.markdown with title := on } }
  | .renderMarkdownContent =>
    let on ← value.asBoolean
    return { presentation with markdown := { presentation.markdown with content := on } }
  | .renderMarkdownFooter =>
    let on ← value.asBoolean
    return { presentation with markdown := { presentation.markdown with footer := on } }
  | .renderMarkdownComment =>
    let on ← value.asBoolean
    return { presentation with markdown := { presentation.markdown with comment := on } }

end Presentation

namespace Config

/-- A field of a configuration. -/
inductive Field where
  | title (side : Side)
  | footer (side : Side)
  | setting (setting : Setting)
  deriving DecidableEq, Repr

namespace Field

/-- The key of a setting. -/
def settingKey : Setting → String
  | .titleMode => "default_title_mode"
  | .footerMode => "default_footer_mode"
  | .messageMaxWidth => "default_message_max_width"
  | .commentMaxWidth => "default_comment_max_width"
  | .clean => "default_clean"
  | .renderMarkdownTitle => "default_render_markdown_title"
  | .renderMarkdownContent => "default_render_markdown_content"
  | .renderMarkdownFooter => "default_render_markdown_footer"
  | .renderMarkdownComment => "default_render_markdown_comment"

/-- The key of the field in a configuration file. -/
def key : Field → String
  | .title side => "default_" ++ side.name ++ "_title"
  | .footer side => "default_" ++ side.name ++ "_footer"
  | .setting which => settingKey which

/-- Every field, in the order in which an array gives them. -/
def all : List Field :=
  Side.all.map .title ++ Side.all.map .footer ++
    [Setting.titleMode, .footerMode, .clean, .renderMarkdownTitle, .renderMarkdownContent,
      .renderMarkdownFooter, .renderMarkdownComment, .messageMaxWidth, .commentMaxWidth].map
      .setting

/-- The field of a key. -/
def ofKey? (key : String) : Option Field := all.find? (·.key == key)

end Field

/-- Give a field a value. -/
def setField (config : Config) (field : Field) (value : Value) : Except Mismatch Config := do
  match field with
  | .title side => return { config with titles := config.titles.set side (← value.asString) }
  | .footer side => return { config with footers := config.footers.set side (← value.asString) }
  | .setting setting =>
    return { config with presentation := ← config.presentation.setValue setting value }

/-- Replace what the known keys give. -/
def withEntries (config : Config) (entries : Entries) : Except Mismatch Config :=
  entries.foldlM
    (fun config (key, value) ↦
      match Field.ofKey? key with
      | some field => config.setField field value
      | none => .ok config)
    config

/-- The configuration of a list of entries. -/
def ofEntries (entries : Entries) : Except Mismatch Config := default.withEntries entries

/-- The configuration that one value gives: a table by keys, an array by position. -/
def ofValue (value : Value) : Except Mismatch Config := do
  ofEntries (← value.asRecord (Field.all.map Field.key) "struct DialogueConfig")

/-- Why a text is no configuration. -/
inductive Error where
  /-- The text is not a TOML document. -/
  | syntaxError
  /-- A known key has an unfit value. -/
  | mismatch (cause : Mismatch)

namespace Error

/-- The text in which the error is reported. -/
def message : Error → String
  | .syntaxError => "TOML parse error"
  | .mismatch cause => "TOML parse error: " ++ cause.message

end Error

/-- Read a configuration, given how TOML documents are read. -/
def parseBy (read : String → Option Entries) (text : String) : Except Error Config :=
  match read text with
  | none => .error .syntaxError
  | some entries =>
    match ofEntries entries with
    | .ok config => .ok config
    | .error cause => .error (.mismatch cause)

/-- Read a configuration. -/
def parse : String → Except Error Config := parseBy Toml.parse

end Config
end Colloquy
