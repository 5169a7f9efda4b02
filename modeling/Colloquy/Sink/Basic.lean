import Colloquy.Side

/-!
# Sinks

A sink materializes nodes. It answers two kinds of request: to append a new child to a node it
already has, and to edit a node. Any request may be refused; the sink then says why, and keeps
whatever state it is in.
-/

namespace Colloquy

/-- The handle of a node that a sink has created. -/
structure NodeId where
  index : Nat
  deriving DecidableEq, Repr

/-- What a node is for, whatever its style classes. -/
inductive Role where
  /-- The mount point that the host hands in. -/
  | root
  /-- One for each block, above everything else of the block. -/
  | wrapper
  /-- The outer wrapper of a message, aligned by side. -/
  | message (side : Side)
  /-- The message box, with title, content and footer. -/
  | bubble
  | title
  | content
  | footer
  | comment
  | commentBody
  | delimiter
  | delimiterLine
  | delimiterDot
  | unparsed
  deriving DecidableEq, Repr

namespace Role

/-- Every role. -/
def all : List Role :=
  [.root, .wrapper, .message .left, .message .right, .message .center, .bubble, .title, .content,
    .footer, .comment, .commentBody, .delimiter, .delimiterLine, .delimiterDot, .unparsed]

/-- The name of the role. -/
def name : Role → String
  | .root => "root"
  | .wrapper => "wrapper"
  | .message side => "message-" ++ side.name
  | .bubble => "bubble"
  | .title => "title"
  | .content => "content"
  | .footer => "footer"
  | .comment => "comment"
  | .commentBody => "comment-body"
  | .delimiter => "delimiter"
  | .delimiterLine => "delimiter-line"
  | .delimiterDot => "dot"
  | .unparsed => "unparsed"

/-- The role of that exact name. -/
def ofName? (text : String) : Option Role := all.find? (·.name == text)

/-- Every role is listed. -/
theorem mem_all (role : Role) : role ∈ all := by
  cases role with
  | message side => cases side <;> decide
  | _ => decide

end Role

/-- Why a drawing stopped. -/
inductive RenderError where
  /-- A request names a node that does not exist. -/
  | unknownNode (node : NodeId)
  /-- The sink refused a request. -/
  | sink (reason : String)
  /-- The markdown renderer gave up. -/
  | markdown (reason : String)
  deriving DecidableEq, Repr

namespace RenderError

/-- The text in which the error is reported. -/
def message : RenderError → String
  | .unknownNode node => "unknown render node #" ++ toString node.index
  | .sink reason => "render sink failed: " ++ reason
  | .markdown reason => "markdown rendering failed: " ++ reason

end RenderError

/-- A change to one node. -/
inductive Edit where
  /-- Replace the content by plain text. -/
  | text (text : String)
  /-- Append finished HTML to the content. -/
  | html (html : String)
  /-- Set an attribute. -/
  | attribute (name value : String)
  /-- Set a style property. -/
  | style (property value : String)
  deriving DecidableEq, Repr

/-- A request that changes what a sink holds. -/
inductive SinkCall where
  | create (parent : NodeId) (role : Role) (classes : List String)
  | edit (node : NodeId) (edit : Edit)
  deriving DecidableEq, Repr

/-- An action on a state `σ` that may stop with an error. The state reached is kept either way. -/
abbrev Action (σ α : Type) := ExceptT RenderError (StateM σ) α

/-- A sink whose state is a `σ`. -/
structure Sink (σ : Type) where
  /-- The node that everything is drawn under. -/
  root : σ → NodeId
  /-- Append a new child, with a role and style classes, to a node. -/
  create : NodeId → Role → List String → Action σ NodeId
  /-- Change a node. -/
  edit : NodeId → Edit → Action σ Unit

/-- What a markdown renderer is told about the document that a text comes from. -/
structure MarkdownContext where
  sourcePath : String
  deriving DecidableEq, Repr

/-- A renderer of markdown source into a node that has been created for it. It works on the same
state as the sink, and may keep a part of that state for itself. -/
abbrev MarkdownRenderer (σ : Type) := String → NodeId → MarkdownContext → Action σ Unit

namespace MarkdownRenderer

variable {σ : Type}

/-- Show the source as it is. -/
def plain (sink : Sink σ) : MarkdownRenderer σ :=
  fun source target _ ↦ sink.edit target (.text source)

/-- Append the HTML that a function makes of the source. -/
def ofHtml (toHtml : String → String) (sink : Sink σ) : MarkdownRenderer σ :=
  fun source target _ ↦ sink.edit target (.html (toHtml source))

end MarkdownRenderer
end Colloquy
