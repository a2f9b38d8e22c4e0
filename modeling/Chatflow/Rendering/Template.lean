import Chatflow.Context
import Chatflow.Decimal.Layout
import Chatflow.Json.Printer

/-!
# Templates

Texts with tokens such as `{context.vars.phone}`. `Template.render` replaces one token after the
other throughout the text: those of variables, of the place, of the user and of the contact data,
each group in key order. What one replacement puts in is seen by those after it.
-/

namespace Chatflow

namespace Template

/-! ### Replacing -/

/-- The text with every occurrence of a word replaced, after some characters are passed over. -/
def replaceFrom (word image : List Char) : (skip : Nat) → List Char → List Char
  | _, [] => []
  | skip + 1, _ :: rest => replaceFrom word image skip rest
  | 0, c :: rest =>
    if word.isPrefixOf (c :: rest) then image ++ replaceFrom word image (word.length - 1) rest
    else c :: replaceFrom word image 0 rest

/-- The text with every occurrence of a word, which is not empty, replaced. -/
def replace (text : List Char) (word image : String) : List Char :=
  replaceFrom word.toList image.toList 0 text

/-- A name in braces. -/
def token (name : String) : String := "\x7b" ++ name ++ "\x7d"

/-! ### Tokens -/

/-- The text of a variable: of a text with a colon the part after the first colon, up to the
second. -/
def varText : Json → String
  | .str s => if s.toList.contains ':' then ((s.splitToList (· = ':'))[1]?).getD "" else s
  | v => v.display

/-- The tokens of variables: those of the conversation over those of the subscriber. -/
def varTokens (c : Context) (subscriberVars : Dict Json) : List (String × String) :=
  (subscriberVars.overlay c.vars).entries.map fun e => ("context.vars." ++ e.1, varText e.2)

/-- The tokens of the last place. -/
def placeTokens (l : UserLocation) : List (String × String) :=
  (l.address.getD .empty).entries.map
      (fun e => ("context.user_location.address." ++ e.1, e.2.display)) ++
    [("context.user_location.lat", Decimal.plainText l.lat),
      ("context.user_location.lon", Decimal.plainText l.lon)]

/-- The tokens of the user. -/
def userTokens (u : UserSnapshot) : List (String × String) :=
  u.fields.entries.map fun e => ("context.user." ++ e.1, e.2)

/-- The tokens of the contact data. -/
def contactTokens (contact : Dict String) : List (String × String) :=
  contact.entries.map fun e => ("contact." ++ e.1, e.2)

/-- All tokens with their texts, in the order in which they are replaced. -/
def tokens (c : Context) (subscriberVars : Dict Json) (contact : Dict String) :
    List (String × String) :=
  varTokens c subscriberVars ++ placeTokens c.userLocation ++ userTokens c.user ++
    contactTokens contact

/-- A text with its tokens replaced. -/
def render (text : String) (c : Context) (subscriberVars : Dict Json) (contact : Dict String) :
    String :=
  String.ofList ((tokens c subscriberVars contact).foldl
    (fun text t => replace text (token t.1) t.2) text.toList)

end Template

end Chatflow
