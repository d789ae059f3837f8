import QueryClient.Console.Emoji.Replace
import QueryClient.Fault

/-!
# Markup

Text for a terminal is marked up with tags in square brackets that turn styles on and off. A tag
begins with a small letter, a number sign, a slash or an at sign; backslashes in front of it take
its meaning away, two of them standing for one. Names between colons stand for emoji. Without
colours nothing but the text is left, yet a tag that turns off what is not on is still a fault.
-/

namespace QueryClient.Console

/-! ## Tags -/

/-- A character that a tag can begin with. -/
def startsTag (c : Char) : Bool :=
  ('a' ≤ c && c ≤ 'z') || c == '#' || c == '/' || c == '@'

/-- The body of a tag at the front, and what follows. -/
def tag? : List Char → Option (List Char × List Char)
  | '[' :: c :: rest =>
    if startsTag c then
      (Text.upToMark? ']' (· == '[') rest).map fun (body, after) => (c :: body, after)
    else none
  | _ => none

theorem length_of_tag? {cs body after : List Char} (h : tag? cs = some (body, after)) :
    after.length < cs.length := by
  unfold tag? at h
  split at h
  · split at h
    · simp only [Option.map_eq_some_iff, Prod.mk.injEq, Prod.exists] at h
      obtain ⟨_, _, hr, _, rfl⟩ := h
      have := Text.length_of_upToMark? hr
      simp only [List.length_cons]
      omega
    · simp at h
  · simp at h

/-! ## Taking apart -/

/-- A part of a marked-up text. -/
inductive Part where
  /-- Characters without a tag among them. -/
  | plain (cs : List Char)
  /-- A tag with backslashes in front of it. -/
  | tagged (backslashes : Nat) (body : List Char)
deriving Repr, DecidableEq

/-- A character in front of parts. -/
def Part.consChar (c : Char) : List Part → List Part
  | plain cs :: rest => plain (c :: cs) :: rest
  | parts => plain [c] :: parts

/-- The parts of a marked-up text. -/
def parts : List Char → List Part
  | [] => []
  | c :: rest =>
    match _h : tag? ((c :: rest).dropWhile (· == '\\')) with
    | some (body, after) =>
      .tagged ((c :: rest).takeWhile (· == '\\')).length body :: parts after
    | none => Part.consChar c (parts rest)
termination_by cs => cs.length
decreasing_by
  · have := length_of_tag? _h
    have := (List.dropWhile_suffix (· == '\\') : (c :: rest).dropWhile _ <:+ c :: rest).length_le
    omega
  · simp

/-! ## Taking the meaning away -/

/-- A part written so that it is shown as it is. -/
def Part.escaped : Part → List Char
  | plain cs => cs
  | tagged backslashes body =>
    List.replicate (2 * backslashes + 1) '\\' ++ '[' :: body ++ [']']

/-- A single backslash at the end is doubled: it must not reach what comes after it. -/
def guardEnd (cs : List Char) : List Char :=
  match cs.reverse with
  | ['\\'] => cs ++ ['\\']
  | '\\' :: c :: _ => if c == '\\' then cs else cs ++ ['\\']
  | _ => cs

/-- A text written so that its tags are shown. -/
def escape (s : String) : String :=
  String.ofList (guardEnd ((parts s.toList).flatMap Part.escaped))

/-! ## Styles -/

/-- Attributes of a style in the order in which they are named, with their short names. -/
def attributes : List (String × String) :=
  [("bold", "b"), ("dim", "d"), ("italic", "i"), ("underline", "u"), ("blink", "blink"),
   ("blink2", "blink2"), ("reverse", "r"), ("conceal", "c"), ("strike", "s"),
   ("underline2", "uu"), ("frame", "frame"), ("encircle", "encircle"), ("overline", "o")]

def attribute? (word : String) : Option String :=
  (attributes.find? fun (name, short) => name == word || short == word).map (·.1)

/-- A style that a tag turns on. -/
structure Style where
  /-- The attributes that are turned on or off. -/
  set : List (String × Bool) := []
  color : Option String := none
  background : Option String := none
  link : Option String := none
deriving Repr, DecidableEq

namespace Style

/-- Read a style from words in small letters; there is one colour at most. -/
def read? (style : Style) : List String → Option Style
  | [] => some style
  | "on" :: background :: rest => read? { style with background := some background } rest
  | "link" :: link :: rest => read? { style with link := some link } rest
  | "not" :: word :: rest =>
    match attribute? word with
    | some name => read? { style with set := (name, false) :: style.set } rest
    | none => none
  | word :: rest =>
    match attribute? word with
    | some name => read? { style with set := (name, true) :: style.set } rest
    | none =>
      if style.color.isSome || ["on", "link", "not"].contains word then none
      else read? { style with color := some word } rest

/-- The name of a style: its parts in a fixed order. -/
def name (style : Style) : String :=
  let set := attributes.filterMap fun (full, _) =>
    (style.set.lookup full).map fun on => if on then full else "not " ++ full
  Text.join " " (set ++ style.color.toList
    ++ (style.background.map ("on " ++ ·)).toList ++ (style.link.map ("link " ++ ·)).toList)

end Style

def wordsOf (cs : List Char) : List String :=
  ((cs.splitBy fun a b => Text.isBlank a == Text.isBlank b).filter
    fun piece => !piece.all Text.isBlank).map String.ofList

/-- The name under which a style is turned on and off. -/
def styleName (cs : List Char) : String :=
  let name := Text.lower (String.ofList (Text.trimChars cs))
  match Style.read? {} (wordsOf name.toList) with
  | some style => style.name
  | none => name

/-! ## What is left -/

/-- Characters in which a bracket needs no backslash. -/
def withoutBracketEscapes : List Char → List Char
  | '\\' :: '[' :: rest => '[' :: withoutBracketEscapes rest
  | c :: rest => c :: withoutBracketEscapes rest
  | [] => []

/-- The styles that are on after a tag, the latest first; `none` when the tag turns off what is
not on. -/
def follow (styles : List String) (body : List Char) : Option (List String) :=
  let name := body.takeWhile (· != '=')
  match name with
  | '/' :: closed =>
    if closed.all Text.isBlank then
      match styles with
      | [] => none
      | _ :: rest => some rest
    else
      let closed := styleName closed
      if styles.contains closed then some (styles.erase closed) else none
  | name => some (styleName name :: styles)

/-- The text that parts leave, given the styles that are on. -/
def shown (styles : List String) : List Part → Except Fault (List Char)
  | [] => .ok []
  | .plain cs :: rest => (shown styles rest).map (withEmoji (withoutBracketEscapes cs) ++ ·)
  | .tagged backslashes body :: rest =>
    let front := List.replicate (backslashes / 2) '\\'
    if backslashes % 2 == 1 then
      (shown styles rest).map (front ++ withEmoji ('[' :: body ++ [']']) ++ ·)
    else
      match follow styles body with
      | some styles => (shown styles rest).map (front ++ ·)
      | none => .error .malformedMarkup

/-- A control character that a terminal would act on. -/
def isControl (c : Char) : Bool :=
  [7, 8, 11, 12, 13].contains c.toNat

/-- The text that a marked-up text leaves. -/
def plainText (s : String) : Except Fault (List Char) :=
  (shown [] (parts s.toList)).map (List.filter (!isControl ·))

end QueryClient.Console
