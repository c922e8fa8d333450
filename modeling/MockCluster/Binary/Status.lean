/-!
# Response statuses

The result codes that a response carries.
-/

namespace MockCluster

/-- The result of a request. -/
inductive Status where
  | success
  | keyNotFound
  | keyExists
  | tooBig
  | invalidArguments
  | notStored
  | badDelta
  | notMyVbucket
  | noBucket
  | locked
  | authStale
  | authError
  | authContinue
  | rangeError
  | accessError
  | notInitialized
  | unknownCommand
  | outOfMemory
  | notSupported
  | internalError
  | busy
  | tmpFail
  | unknownCollection
  deriving DecidableEq, Repr, Inhabited

namespace Status

/-- Every status, in ascending order of codes. -/
def all : List Status :=
  [.success, .keyNotFound, .keyExists, .tooBig, .invalidArguments, .notStored, .badDelta, .notMyVbucket,
  .noBucket, .locked, .authStale, .authError, .authContinue, .rangeError, .accessError, .notInitialized,
  .unknownCommand, .outOfMemory, .notSupported, .internalError, .busy, .tmpFail, .unknownCollection]

/-- The number on the wire. -/
def code : Status → UInt16
  | success => 0x0000
  | keyNotFound => 0x0001
  | keyExists => 0x0002
  | tooBig => 0x0003
  | invalidArguments => 0x0004
  | notStored => 0x0005
  | badDelta => 0x0006
  | notMyVbucket => 0x0007
  | noBucket => 0x0008
  | locked => 0x0009
  | authStale => 0x001f
  | authError => 0x0020
  | authContinue => 0x0021
  | rangeError => 0x0022
  | accessError => 0x0024
  | notInitialized => 0x0025
  | unknownCommand => 0x0081
  | outOfMemory => 0x0082
  | notSupported => 0x0083
  | internalError => 0x0084
  | busy => 0x0085
  | tmpFail => 0x0086
  | unknownCollection => 0x0088

/-- The status that a number stands for. -/
def ofCode? (n : UInt16) : Option Status := all.find? (·.code = n)

theorem mem_all (x : Status) : x ∈ all := by cases x <;> decide

@[simp] theorem ofCode?_code (x : Status) : ofCode? x.code = some x := by cases x <;> rfl

theorem code_injective {x y : Status} (h : x.code = y.code) : x = y := by
  have := congrArg ofCode? h
  simpa using this

end Status

end MockCluster
