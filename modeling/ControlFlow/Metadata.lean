import ControlFlow.Json.Text

set_option autoImplicit false

namespace ControlFlow

structure Metadata where
  language : String
  file : String
  deriving DecidableEq, Repr

def Metadata.load : Json → Except Failure Metadata
  | .obj fields =>
      let missing := ["language", "file"].filter (fun key => (Json.lookup fields key).isNone)
      if missing.isEmpty then do
        let language ← (Json.get fields "language").text
        let file ← (Json.get fields "file").text
        .ok ⟨language, file⟩
      else .error (.metadataMissing missing)
  | _ => .error .metadataNotMapping

-- What a clock shows, in whole milliseconds. A clock can show more than can be counted.
structure Moment where
  milliseconds : Except Failure Int

-- Where milliseconds are counted, their number is the moment.
instance : Coe Int Moment := ⟨fun milliseconds => ⟨.ok milliseconds⟩⟩

-- The moment of a clock that shows seconds: exact for an integer, a rounded product cut toward zero
-- for a double.
def Moment.ofClock : Json → Moment
  | .int seconds => ⟨.ok (seconds * 1000)⟩
  | .float seconds =>
      match seconds.scaleBy 1000 with
      | .finite negative mantissa exponent => ⟨.ok (Double.wholePart negative mantissa exponent)⟩
      | .infinite _ => ⟨.error .infiniteInteger⟩
      | .nan => ⟨.error .nanInteger⟩
  | _ => ⟨.ok 0⟩

-- The milliseconds that a clock shows, zero when they cannot be counted.
def milliseconds (clock : Json) : Int :=
  (Moment.ofClock clock).milliseconds.toOption.getD 0

structure Stamp where
  language : String
  file : String
  timestamp : Int
  deriving DecidableEq, Repr

def Metadata.stamp (metadata : Metadata) (timestamp : Int) : Stamp :=
  ⟨metadata.language, metadata.file, timestamp⟩

def Stamp.toJson (stamp : Stamp) : Json :=
  .obj [("sourceLanguage", .str stamp.language), ("sourceFile", .str stamp.file),
    ("timestamp", .int stamp.timestamp)]

end ControlFlow
