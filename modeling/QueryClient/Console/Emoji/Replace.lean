import QueryClient.Console.Emoji.Names
import QueryClient.Console.Emoji.SkinTones
import QueryClient.Text.Blank
import QueryClient.Text.Case
import QueryClient.Text.Split

/-!
# Emoji

A name between colons stands for an emoji; it may say whether the emoji is shown as a picture or
as text. Names that are not known are left as they are.
-/

namespace QueryClient.Console

/-! ## Names -/

def emojiIn? (name : String) (table : String) : Option String :=
  (Text.splitAtChar '\n' table).findSome? fun line =>
    match Text.splitAtChar ' ' line with
    | [key, emoji] => if key == name then some emoji else none
    | _ => none

/-- The emoji of a name in small letters. -/
def emoji? (name : String) : Option String :=
  (emojiIn? name plainEmoji).orElse fun _ => emojiIn? name tonedEmoji

/-- The ways to show an emoji, with the characters that ask for them. -/
def presentations : List (String × Char) :=
  [("-emoji", '\ufe0f'), ("-text", '\ufe0e')]

/-- A name without the way to show it, and the character that asks for that. -/
def splitPresentation (cs : List Char) : List Char × List Char :=
  match presentations.find? fun (ending, _) => ending.toList.isSuffixOf cs with
  | some (ending, selector) => (cs.take (cs.length - ending.length), [selector])
  | none => (cs, [])

/-- What a name between colons stands for. -/
def emojiFor? (cs : List Char) : Option (List Char) :=
  let (name, selector) := splitPresentation cs
  (emoji? (Text.lower (String.ofList name))).map fun emoji => emoji.toList ++ selector

/-! ## Texts -/

/-- A text with the emoji that names between colons stand for. -/
def withEmoji : List Char → List Char
  | [] => []
  | c :: rest =>
    if c != ':' then c :: withEmoji rest
    else match _h : Text.upToMark? ':' Text.isBlank rest with
      | some (name, after) => (emojiFor? name).getD (':' :: name ++ [':']) ++ withEmoji after
      | none => c :: withEmoji rest
termination_by cs => cs.length
decreasing_by
  · simp
  · have := Text.length_of_upToMark? _h
    simp only [List.length_cons]
    omega
  · simp

end QueryClient.Console
