import Reindex.Yaml.Token.Reader
import Reindex.Yaml.Tree

namespace Reindex.Yaml.Tree

abbrev Parsed (α : Type) := α × List Token

abbrev Handles := List (String × Octets)

def standardHandles : Handles :=
  [("!", Octets.ofText "!"), ("!!", Octets.ofText Tag.coreLead)]

def readAnchor : List Token → Option String × List Token
  | .anchor name :: tokens => (some name, tokens)
  | tokens => (none, tokens)

def readTag (handles : Handles) : List Token → Option (Option Tag × List Token)
  | .tag handle suffix :: tokens =>
    if handle = "" then some (some (Tag.ofOctets suffix), tokens)
    else do some (some (Tag.ofOctets ((← handles.lookup handle) ++ suffix)), tokens)
  | tokens => some (none, tokens)

/-- Anchor and tag come in any order, each at most once. -/
def readProperties (handles : Handles) (tokens : List Token) :
    Option (Parsed (Properties String)) := do
  match readAnchor tokens with
  | (some anchor, tokens) =>
    let (tag, tokens) ← readTag handles tokens
    some (⟨some anchor, tag⟩, tokens)
  | (none, tokens) =>
    let (tag, tokens) ← readTag handles tokens
    let (anchor, tokens) := if tag.isSome then readAnchor tokens else (none, tokens)
    some (⟨anchor, tag⟩, tokens)

/-- Where a node stands: among flow collections, in a block, or as key or value of a block mapping,
whose sequences need no indentation. -/
inductive Context where
  | flow
  | block
  | member
  deriving DecidableEq

def endsEntry : List Token → Bool
  | .blockEntry :: _ | .blockEnd :: _ => true
  | _ => false

def endsMember : List Token → Bool
  | .key :: _ | .value :: _ | .blockEnd :: _ => true
  | _ => false

def endsFlowPair (close : Token) : List Token → Bool
  | token :: _ => token == .value || token == .flowEntry || token == close
  | [] => false

def endsFlowValue (close : Token) : List Token → Bool
  | token :: _ => token == .flowEntry || token == close
  | [] => false

mutual

def readNode (handles : Handles) : Nat → Context → List Token → Option (Parsed Written)
  | 0, _, _ => none
  | _ + 1, _, .aliasOf name :: tokens => some (aliasOf name, tokens)
  | fuel + 1, context, tokens => do
    let (properties, tokens) ← readProperties handles tokens
    match tokens with
    | .scalar style text :: tokens =>
      some (scalar properties style text, tokens)
    | .flowSequence :: tokens =>
      let (items, tokens) ← readFlowItems handles fuel true tokens
      some (sequence properties items, tokens)
    | .flowMapping :: tokens =>
      let (members, tokens) ← readFlowMembers handles fuel true tokens
      some (mapping properties members, tokens)
    | token :: rest =>
      if token == .blockEntry && context == .member then do
        let (items, tokens) ← readLooseItems handles fuel tokens
        some (sequence properties items, tokens)
      else if token == .blockSequence && context != .flow then do
        let (items, tokens) ← readItems handles fuel rest
        some (sequence properties items, tokens)
      else if token == .blockMapping && context != .flow then do
        let (members, tokens) ← readMembers handles fuel rest
        some (mapping properties members, tokens)
      else if properties.any then some (emptyWith properties, tokens)
      else none
    | [] => if properties.any then some (emptyWith properties, []) else none

def readOptional (handles : Handles) :
    Nat → Context → Bool → List Token → Option (Parsed Written)
  | 0, _, _, _ => none
  | fuel + 1, context, isLeftOut, tokens =>
    if isLeftOut then some (empty, tokens) else readNode handles fuel context tokens

def readItems (handles : Handles) : Nat → List Token → Option (Parsed (List Written))
  | 0, _ => none
  | fuel + 1, .blockEntry :: tokens => do
    let (item, tokens) ← readOptional handles fuel .block (endsEntry tokens) tokens
    let (items, tokens) ← readItems handles fuel tokens
    some (item :: items, tokens)
  | _ + 1, .blockEnd :: tokens => some ([], tokens)
  | _ + 1, _ => none

/-- Items without indentation end with the member that they belong to. -/
def readLooseItems (handles : Handles) : Nat → List Token → Option (Parsed (List Written))
  | 0, _ => none
  | fuel + 1, .blockEntry :: tokens => do
    let (item, tokens) ←
      readOptional handles fuel .block (endsEntry tokens || endsMember tokens) tokens
    let (items, tokens) ← readLooseItems handles fuel tokens
    some (item :: items, tokens)
  | _ + 1, tokens => some ([], tokens)

def readMembers (handles : Handles) :
    Nat → List Token → Option (Parsed (List (Written × Written)))
  | 0, _ => none
  | fuel + 1, .key :: tokens => do
    let (key, tokens) ← readOptional handles fuel .member (endsMember tokens) tokens
    let (value, tokens) ← readValue handles fuel tokens
    let (members, tokens) ← readMembers handles fuel tokens
    some ((key, value) :: members, tokens)
  | _ + 1, .blockEnd :: tokens => some ([], tokens)
  | _ + 1, _ => none

def readValue (handles : Handles) : Nat → List Token → Option (Parsed Written)
  | 0, _ => none
  | fuel + 1, .value :: tokens => readOptional handles fuel .member (endsMember tokens) tokens
  | _ + 1, tokens => some (empty, tokens)

def readFlowItems (handles : Handles) :
    Nat → Bool → List Token → Option (Parsed (List Written))
  | 0, _, _ => none
  | _ + 1, _, .flowSequenceEnd :: tokens => some ([], tokens)
  | fuel + 1, true, tokens => readFlowItem handles fuel tokens
  | fuel + 1, false, .flowEntry :: tokens =>
    match tokens with
    | .flowSequenceEnd :: tokens => some ([], tokens)
    | tokens => readFlowItem handles fuel tokens
  | _ + 1, false, _ => none

/-- An item of a flow sequence, and the items after it. A key makes the item a mapping of one
member. -/
def readFlowItem (handles : Handles) : Nat → List Token → Option (Parsed (List Written))
  | 0, _ => none
  | fuel + 1, tokens => do
    let (item, tokens) ← match tokens with
      | .key :: tokens => readFlowPair handles fuel tokens
      | tokens => readNode handles fuel .flow tokens
    let (items, tokens) ← readFlowItems handles fuel false tokens
    some (item :: items, tokens)

/-- The single member of a mapping in a flow sequence. Behind a key indicator without key, the next
token is passed over. -/
def readFlowPair (handles : Handles) : Nat → List Token → Option (Parsed Written)
  | 0, _ => none
  | fuel + 1, tokens => do
    let (key, tokens) ←
      if endsFlowPair .flowSequenceEnd tokens then some (empty, tokens.drop 1)
      else readNode handles fuel .flow tokens
    let (value, tokens) ← readFlowValue handles fuel .flowSequenceEnd tokens
    some (mapping ⟨none, none⟩ [(key, value)], tokens)

def readFlowValue (handles : Handles) : Nat → Token → List Token → Option (Parsed Written)
  | 0, _, _ => none
  | fuel + 1, close, .value :: tokens =>
    readOptional handles fuel .flow (endsFlowValue close tokens) tokens
  | _ + 1, _, tokens => some (empty, tokens)

def readFlowMembers (handles : Handles) :
    Nat → Bool → List Token → Option (Parsed (List (Written × Written)))
  | 0, _, _ => none
  | _ + 1, _, .flowMappingEnd :: tokens => some ([], tokens)
  | fuel + 1, true, tokens => readFlowMember handles fuel tokens
  | fuel + 1, false, .flowEntry :: tokens =>
    match tokens with
    | .flowMappingEnd :: tokens => some ([], tokens)
    | tokens => readFlowMember handles fuel tokens
  | _ + 1, false, _ => none

/-- A member of a flow mapping, and the members after it. Without key indicator there is no
value. -/
def readFlowMember (handles : Handles) :
    Nat → List Token → Option (Parsed (List (Written × Written)))
  | 0, _ => none
  | fuel + 1, tokens => do
    let (member, tokens) ← match tokens with
      | .key :: tokens =>
        let (key, tokens) ←
          readOptional handles fuel .flow (endsFlowPair .flowMappingEnd tokens) tokens
        let (value, tokens) ← readFlowValue handles fuel .flowMappingEnd tokens
        some ((key, value), tokens)
      | tokens =>
        let (key, tokens) ← readNode handles fuel .flow tokens
        some ((key, empty), tokens)
    let (members, tokens) ← readFlowMembers handles fuel false tokens
    some (member :: members, tokens)

end

def readDirectives : Bool → Handles → List Token → Option (Handles × List Token)
  | hasVersion, handles, .version major minor :: tokens =>
    if hasVersion || major != 1 || (minor != 1 && minor != 2) then none
    else readDirectives true handles tokens
  | hasVersion, handles, .tagHandle handle lead :: tokens =>
    if (handles.lookup handle).isSome then none
    else readDirectives hasVersion (handles ++ [(handle, lead)]) tokens
  | _, handles, tokens => some (handles, tokens)

def endsDocument : List Token → Bool
  | [] | .version .. :: _ | .tagHandle .. :: _ | .documentStart :: _ | .documentEnd :: _ => true
  | _ => false

def startsExplicitly : List Token → Bool
  | .version .. :: _ | .tagHandle .. :: _ | .documentStart :: _ => true
  | _ => false

def fuelFor (tokens : List Token) : Nat := 4 * tokens.length + 4

def readDocument (tokens : List Token) : Option (Parsed Written) :=
  if startsExplicitly tokens then do
    let (handles, tokens) ← readDirectives false [] tokens
    match tokens with
    | .documentStart :: tokens =>
      readOptional (handles ++ standardHandles) (fuelFor tokens) .block (endsDocument tokens) tokens
    | _ => none
  else readNode standardHandles (fuelFor tokens) .block tokens

/-- The only document of a text. A text without tokens is an empty node. -/
def ofTokens? (tokens : List Token) : Option Written :=
  if tokens.isEmpty then some empty
  else do
    let (tree, tokens) ← readDocument tokens
    if (tokens.dropWhile (· == .documentEnd)).isEmpty then some tree else none

def ofText? (text : String) : Option Written := do ofTokens? (← Token.ofText? text)

end Reindex.Yaml.Tree
