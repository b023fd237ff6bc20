import EditorModes.Json.Basic
import EditorModes.Lexer.Tokens

/-!
# Line tokens as JSON

The JSON form of lexer states and of the tokens of a line.
-/

namespace EditorModes

/-- The JSON form of a frame and of the frames embedded in it. -/
def Frame.toJson (f : Frame) (embedded : List (String × Frame)) : Json :=
  .object
    [("stack", .ofList .text f.stack),
      ("brackets", .ofNat f.brackets),
      ("embedded",
        match embedded with
        | [] => .null
        | (language, guest) :: rest =>
          .object [("language", .text language), ("state", guest.toJson rest)])]

/-- The JSON form. -/
def LexerState.toJson (s : LexerState) : Json :=
  s.frame.toJson s.embedded

/-- The fields of the JSON form. -/
def LineTokens.fields (t : LineTokens) : List (String × Json) :=
  [("tokens", .ofList (fun t => .list [.ofNat t.start, .text t.type]) t.tokens),
    ("modes", .ofList (fun m => .list [.ofNat m.start, .text m.language]) t.modes),
    ("stop", .ofNat t.stop),
    ("end", t.endState.toJson)]

/-- The JSON form. -/
def LineTokens.toJson (t : LineTokens) : Json :=
  .object t.fields

end EditorModes
