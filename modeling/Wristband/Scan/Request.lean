import Wristband.AuthKey

/-! What an application can ask of the next tag in the field. Requests with a key
authenticate before they touch memory. -/

namespace Wristband

inductive ScanRequest where
  /-- The identifier from the collision avoidance, without any memory access. -/
  | fastRead
  /-- User memory from a page to its end. -/
  | read (page : UInt8) (key : Option AuthKey) (cmac : Bool)
  /-- Like `read`, with the first key that the tag accepts. -/
  | readMultiKey (page : UInt8) (keys : List AuthKey) (cmac : Bool)
  /-- Stores data in user memory from a page on. -/
  | write (page : UInt8) (data : Bytes) (key : Option AuthKey) (cmac : Bool)
  /-- Replaces the keys of the tag. -/
  | writeKey (key : Option AuthKey) (newKey : AuthKey) (cmac : Bool)
  /-- Switches memory protection on or off. -/
  | writeProtect (key : Option AuthKey) (enable : Bool) (cmac : Bool)
  /-- Switches codes on frames on or off, on tags that have them. -/
  | writeCmac (key : Option AuthKey) (enable : Bool) (cmac : Bool)
  /-- Tries both keys and reports what the tag does. -/
  | test (key0 key1 : AuthKey)
deriving DecidableEq

namespace ScanRequest

def name : ScanRequest → String
  | fastRead => "FastRead"
  | read .. => "Read"
  | readMultiKey .. => "ReadMultiKey"
  | write .. => "Write"
  | writeKey .. => "WriteKey"
  | writeProtect .. => "WriteProtect"
  | writeCmac .. => "WriteCmac"
  | test .. => "Test"

/-- The request changes the memory of the tag. -/
def isWrite : ScanRequest → Bool
  | write .. | writeKey .. | writeProtect .. | writeCmac .. => true
  | fastRead | read .. | readMultiKey .. | test .. => false

def describeKey : Option AuthKey → String
  | none => "None"
  | some key => "Some(" ++ key.description ++ ")"

def describeList {α : Type} (describe : α → String) (items : List α) : String :=
  "[" ++ ", ".intercalate (items.map describe) ++ "]"

def describeFields (name : String) (fields : List (String × String)) : String :=
  name ++ " \x7b " ++
    ", ".intercalate (fields.map fun field => field.1 ++ ": " ++ field.2) ++ " \x7d"

def description (request : ScanRequest) : String :=
  let fields := describeFields request.name
  match request with
  | fastRead => request.name
  | read page key cmac =>
    fields [("page", toString page), ("key", describeKey key), ("cmac", toString cmac)]
  | readMultiKey page keys cmac =>
    fields [("page", toString page), ("keys", describeList AuthKey.description keys),
      ("cmac", toString cmac)]
  | write page data key cmac =>
    fields [("page", toString page), ("data", describeList toString data),
      ("key", describeKey key), ("cmac", toString cmac)]
  | writeKey key newKey cmac =>
    fields [("key", describeKey key), ("new_key", newKey.description), ("cmac", toString cmac)]
  | writeProtect key enable cmac | writeCmac key enable cmac =>
    fields [("key", describeKey key), ("enable", toString enable), ("cmac", toString cmac)]
  | test key0 key1 => fields [("key0", key0.description), ("key1", key1.description)]

end ScanRequest
end Wristband
