/-
**Text with tags.**

A console takes words in brackets for tags: `[bold]` opens a style, `[/bold]` closes it, and `[/]`
closes the last one that is open. A backslash in front of a bracket makes it plain text.

* `Console`: what prints texts with tags, or objects to them;
* `Markup.tags`: the tags of a text, with the places of their brackets;
* `Markup.objection?`: a tag closes what is not open;
* `Console.styled`: the console that objects to nothing else. What it knows of styles is their short
  names; links with parameters, which a console evaluates, are styles as any other to it.
-/

import TypeSchema.Text.Blank

namespace TypeSchema

/-- What prints texts with tags. -/
structure Console where
  /-- What the console objects to in a text, if it does not print it. -/
  objection : String → Option String

namespace Markup

/-- Whether a tag may begin with a character. -/
def isTagStart (c : Char) : Bool := c.isLower || c == '#' || c == '/' || c == '@'

/-- The words of the tag that a bracket opens: up to the bracket that closes it. -/
def tagWords? : List Char → Option (List Char)
  | [] => none
  | first :: rest =>
    let words := rest.takeWhile fun c => c != '[' && c != ']'
    if isTagStart first && (rest.drop words.length).head? == some ']' then some (first :: words)
    else none

/-- The tags of a text that begins at a position behind some backslashes. The characters that are
left out belong to a tag. -/
def tagsFrom (position escapes : Nat) : (leftOut : Nat) → List Char → List (Nat × List Char)
  | _, [] => []
  | leftOut + 1, _ :: rest => tagsFrom (position + 1) 0 leftOut rest
  | 0, '\\' :: rest => tagsFrom (position + 1) (escapes + 1) 0 rest
  | 0, '[' :: rest =>
    match tagWords? rest with
    | none => tagsFrom (position + 1) 0 0 rest
    | some words =>
      let later := tagsFrom (position + 1) 0 (words.length + 1) rest
      if escapes % 2 = 0 then (position, words) :: later else later
  | 0, _ :: rest => tagsFrom (position + 1) 0 0 rest

/-- The tags of a text, each with the position of its bracket. -/
def tags (text : String) : List (Nat × List Char) := tagsFrom 0 0 0 text.toList

/-- The name of a style. -/
def styleName (words : List Char) : String :=
  match String.ofList ((trim words).map Char.toLower) with
  | "b" => "bold"
  | "c" => "conceal"
  | "d" => "dim"
  | "i" => "italic"
  | "o" => "overline"
  | "r" => "reverse"
  | "s" => "strike"
  | "u" => "underline"
  | "uu" => "underline2"
  | name => name

/-- What is wrong with tags behind which some styles are open, the last one first. -/
def objectionTo (opened : List String) : List (Nat × List Char) → Option String
  | [] => none
  | (position, words) :: rest =>
    match words.takeWhile (· != '=') with
    | '/' :: name =>
      if trim name = [] then
        match opened with
        | [] => some s!"closing tag '[/]' at position {position} has nothing to close"
        | _ :: opened => objectionTo opened rest
      else if styleName name ∈ opened then objectionTo (opened.erase (styleName name)) rest
      else
        some (s!"closing tag '[{String.ofList words}]' at position {position} " ++
          "doesn't match any open tag")
    | name => objectionTo (styleName name :: opened) rest

/-- What is wrong with the tags of a text. -/
def objection? (text : String) : Option String := objectionTo [] (tags text)

end Markup

namespace Console

/-- A console with styles. -/
def styled : Console := ⟨Markup.objection?⟩

end Console

end TypeSchema
