import Exemplar.Dict
import Exemplar.Json.Lexeme

/-! Reading a document: one pass over its tokens with a stack of the containers that are still
open. Each state says what may come next, so each failure has the path of its place. -/
namespace Exemplar.Json

/-- An open container with the parts read so far. -/
inductive Frame where
  /-- The items before the current one, last first. -/
  | items (before : List Value)
  /-- The members before the current one, and its key. -/
  | members (before : List (String × Value)) (key : String)

def Frame.segment : Frame → Segment
  | items before => .index before.length
  | members _ key => .key key

/-- The path of the value that is being read inside the frames, innermost first. -/
def framePath (frames : List Frame) : List Segment :=
  (frames.map Frame.segment).reverse

inductive ReadState where
  | value (frames : List Frame)
  /-- An item, or at first the end of the array. -/
  | item (first : Bool) (before : List Value) (frames : List Frame)
  | itemEnd (before : List Value) (frames : List Frame)
  /-- A key, or at first the end of the object. -/
  | key (first : Bool) (before : List (String × Value)) (frames : List Frame)
  | colon (before : List (String × Value)) (key : String) (frames : List Frame)
  | memberEnd (before : List (String × Value)) (frames : List Frame)
  | done (value : Value)

namespace ReadState

structure Failure where
  cause : Cause
  path : List Segment
  bytes : Nat

/-- Containers may be nested this deep, less one. -/
def depthLimit : Nat := 128

/-- The state after a complete value. -/
def complete (v : Value) : List Frame → ReadState
  | [] => done v
  | .items before :: frames => itemEnd (v :: before) frames
  | .members before name :: frames => memberEnd (Entries.put before name v) frames

/-- A container is opened where a value is expected. -/
def enter (frames : List Frame) (token : Token) (state : ReadState) : Except Failure ReadState :=
  if frames.length + 1 < depthLimit then .ok state
  else .error ⟨.tooDeep, framePath frames, token.start + 1⟩

/-- The state after the first token of a value. -/
def begin (frames : List Frame) (token : Token) : Except Failure ReadState :=
  match token.lexeme with
  | .scalar v => .ok (complete v frames)
  | .text v => .ok (complete (.string v) frames)
  | .openArray => enter frames token (item true [] frames)
  | .openObject => enter frames token (key true [] frames)
  | .brokenScalar cause bytes => .error ⟨cause, framePath frames, bytes⟩
  | .brokenText cause bytes => .error ⟨cause, framePath frames, bytes⟩
  | _ => .error ⟨.expectedValue, framePath frames, token.start + 1⟩

def step (token : Token) : ReadState → Except Failure ReadState
  | value frames => begin frames token
  | item first before frames =>
    match token.lexeme, first with
    | .closeArray, true => .ok (complete (.array []) frames)
    | .closeArray, false => .error ⟨.trailingComma, framePath frames, token.start + 1⟩
    | _, _ => begin (.items before :: frames) token
  | itemEnd before frames =>
    match token.lexeme with
    | .comma => .ok (item false before frames)
    | .closeArray => .ok (complete (.array before.reverse) frames)
    | _ => .error ⟨.expectedItemEnd, framePath frames, token.start + 1⟩
  | key first before frames =>
    let path := framePath frames ++ [.unknown]
    match token.lexeme, first with
    | .text name, _ => .ok (colon before name frames)
    | .brokenText cause bytes, _ => .error ⟨cause, path, bytes⟩
    | .closeObject, true => .ok (complete (.object []) frames)
    | .closeObject, false => .error ⟨.trailingComma, path, token.start + 1⟩
    | _, _ => .error ⟨.keyNotString, path, token.start + 1⟩
  | colon before name frames =>
    match token.lexeme with
    | .colon => .ok (value (.members before name :: frames))
    | _ => .error ⟨.expectedColon, framePath frames, token.start + 1⟩
  | memberEnd before frames =>
    match token.lexeme with
    | .comma => .ok (key false before frames)
    | .closeObject => .ok (complete (.object before) frames)
    | _ => .error ⟨.expectedMemberEnd, framePath frames ++ [.unknown], token.start + 1⟩
  | done _ => .error ⟨.trailingCharacters, [], token.start + 1⟩

/-- The value read once the tokens are used up. -/
def finish (bytes : Nat) : ReadState → Except Failure Value
  | value frames => .error ⟨.endInValue, framePath frames, bytes⟩
  | item first _ frames =>
    .error ⟨if first then .endInArray else .endInValue, framePath frames, bytes⟩
  | itemEnd _ frames => .error ⟨.endInArray, framePath frames, bytes⟩
  | key first _ frames =>
    .error ⟨if first then .endInObject else .endInValue, framePath frames ++ [.unknown], bytes⟩
  | colon _ _ frames => .error ⟨.endInObject, framePath frames, bytes⟩
  | memberEnd _ frames => .error ⟨.endInObject, framePath frames ++ [.unknown], bytes⟩
  | done v => .ok v

def run (bytes : Nat) : List Token → ReadState → Except Failure Value
  | [], state => state.finish bytes
  | token :: rest, state => do run bytes rest (← state.step token)

end ReadState

/-- The value a text stands for. -/
def Value.read (text : String) : Except ParseError Value :=
  let chars := text.toList
  match ReadState.run (Lexeme.byteCount chars) (tokens 0 chars) (.value []) with
  | .ok value => .ok value
  | .error e => .error ⟨e.cause, e.path, Place.ofOffset chars e.bytes⟩

end Exemplar.Json
