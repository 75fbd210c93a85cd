import FerroCP.Stoi

/-!
# Utility functions: `get_device_info` and the path functions

`ferrocp.hpp:323-396`, with the types `get_device_info` returns: `DeviceType` (`87-93`) and
`DeviceInfo` (`137-153`).

`DeviceType` is an `enum class` over `int`, so `static_cast` gives it any `int`, one of the five
enumerators or not. The device type string is read with `std::stoi`: a string that is not a
number makes the constructor throw, and `get_device_info` then exits by that exception, before
its call to `ferrocp_free_device_info`.

The three path predicates turn the native `int` into a `bool`; `join_paths` and `normalize_path`
take over a `char*` the native side allocated, copy it into a `std::string` and free it with
`ferrocp_free_string`, and throw when the native side returned null.
-/

namespace FerroCP

/-! ## `get_device_info` -/

/-- `ferrocp::DeviceType` (`ferrocp.hpp:87-93`): an `enum class` whose underlying type is `int`. -/
structure DeviceType where
  value : CInt
  deriving DecidableEq, Repr

namespace DeviceType

/-- `static_cast<DeviceType>` of an `int`. -/
def ofInt (v : CInt) : DeviceType := ⟨v⟩

end DeviceType

/-- `ferrocp::DeviceInfo` (`ferrocp.hpp:137-143`). -/
structure DeviceInfo where
  deviceType : DeviceType
  filesystem : String
  totalSpace : UInt64
  availableSpace : UInt64
  readSpeedMbps : Float
  writeSpeedMbps : Float
  deriving Repr

/-- `c_info.device_type ? std::stoi(c_info.device_type) : 0` (`ferrocp.hpp:147`). -/
def readDeviceType (c : FerrocpDeviceInfo) : Except Thrown CInt :=
  match c.deviceType with
  | some text => stoi text
  | none => .ok ⟨0, by decide⟩

/-- `DeviceInfo(const ferrocp_device_info_t&)` (`ferrocp.hpp:146-152`). -/
def DeviceInfo.ofC (c : FerrocpDeviceInfo) : Except Thrown DeviceInfo := do
  let deviceType ← readDeviceType c
  return ⟨.ofInt deviceType, c.filesystem.getD "", c.totalSpace, c.availableSpace,
    c.readSpeedMbps, c.writeSpeedMbps⟩

/-- What `ferrocp_get_device_info` does for the wrapper: the code it returns and the structure
    it fills. -/
structure DeviceInfoOutcome where
  errorCode : Int
  info : FerrocpDeviceInfo
  deriving Repr

/-- `get_device_info` (`ferrocp.hpp:329-340`). -/
def getDeviceInfo (path : String) (outcome : DeviceInfoOutcome) : Cpp DeviceInfo := do
  emit (.call (.getDeviceInfo path))
  if outcome.errorCode ≠ 0 then
    throw (.ferrocp (Exception.new ("Failed to get device info for: " ++ path) outcome.errorCode))
  emit (.read .deviceInfo)
  let info ← liftExcept (DeviceInfo.ofC outcome.info)
  emit (.call .freeDeviceInfo)
  return info

theorem getDeviceInfo_run (path : String) (outcome : DeviceInfoOutcome) (t : List Effect) :
    getDeviceInfo path outcome t =
      if outcome.errorCode ≠ 0 then
        .error (.ferrocp (Exception.new ("Failed to get device info for: " ++ path)
          outcome.errorCode)) (t ++ [.call (.getDeviceInfo path)])
      else
        match DeviceInfo.ofC outcome.info with
        | .ok info =>
          .ok info (t ++ [.call (.getDeviceInfo path), .read .deviceInfo, .call .freeDeviceInfo])
        | .error x => .error x (t ++ [.call (.getDeviceInfo path), .read .deviceInfo]) := by
  by_cases failed : outcome.errorCode = 0
  · cases converted : DeviceInfo.ofC outcome.info <;> simp [getDeviceInfo, failed, converted]
  · simp [getDeviceInfo, failed]

/-- Whatever `int` the native side writes in decimal as the device type, `get_device_info` reads
    it back as the `DeviceType` of that value and frees the structure once. -/
theorem getDeviceInfo_decimal_device_type (path : String) (c : FerrocpDeviceInfo) (v : CInt) :
    ∃ info, getDeviceInfo path ⟨0, { c with deviceType := some (toString v.val) }⟩ [] =
        .ok info [.call (.getDeviceInfo path), .read .deviceInfo, .call .freeDeviceInfo] ∧
      info.deviceType = .ofInt v :=
  ⟨⟨.ofInt v, c.filesystem.getD "", c.totalSpace, c.availableSpace, c.readSpeedMbps,
    c.writeSpeedMbps⟩, by simp [getDeviceInfo_run, DeviceInfo.ofC, readDeviceType, stoi_toString],
    rfl⟩

/-- After a successful native call with a device type, what escapes `get_device_info` is what
    `std::stoi` throws on it. -/
theorem escaped_getDeviceInfo_typed (path : String) (c : FerrocpDeviceInfo) (text : String)
    (x : Thrown) :
    escaped (getDeviceInfo path ⟨0, { c with deviceType := some text }⟩ []) = some x ↔
      stoi text = .error x := by
  simp only [getDeviceInfo_run, DeviceInfo.ofC, readDeviceType, ne_eq, not_true_eq_false,
    if_false]
  cases stoi text <;> simp

/-- For a successful native call with a device type, `get_device_info` throws
    `std::invalid_argument` exactly when no digit follows the type's leading spaces and optional
    sign, and `std::out_of_range` exactly when one does and the number there is outside `int`. -/
theorem getDeviceInfo_device_type_errors (path : String) (c : FerrocpDeviceInfo) (text : String) :
    let run := getDeviceInfo path ⟨0, { c with deviceType := some text }⟩ []
    (escaped run = some .invalidArgument ↔ ¬HasNumber text.toList) ∧
    (escaped run = some .outOfRange ↔
      ∃ spaces sign digits rest, text.toList = spaces ++ sign ++ digits ++ rest ∧
        (∀ c ∈ spaces, isSpace c = true) ∧ (sign = [] ∨ sign = ['+'] ∨ sign = ['-']) ∧
        digits ≠ [] ∧ (∀ c ∈ digits, c.isDigit = true) ∧ StartsNonDigit rest ∧
        ¬(intMin ≤ signedValue sign digits ∧ signedValue sign digits ≤ intMax)) := by
  intro run
  simp only [run, escaped_getDeviceInfo_typed, stoi_eq_error_iff, ← strtol_eq_none_iff]
  constructor
  · simp
  · simp only [reduceCtorEq, true_and, false_and, false_or]
    constructor
    · rintro ⟨v, parsed, outside⟩
      obtain ⟨spaces, sign, digits, rest, split, blank, signs, some_digits, all, stop, rfl⟩ :=
        strtol_eq_some_iff.1 parsed
      exact ⟨spaces, sign, digits, rest, split, blank, signs, some_digits, all, stop, outside⟩
    · rintro ⟨spaces, sign, digits, rest, split, blank, signs, some_digits, all, stop, outside⟩
      exact ⟨_, strtol_eq_some_iff.2
          ⟨spaces, sign, digits, rest, split, blank, signs, some_digits, all, stop, rfl⟩,
        outside⟩

/-- `path_exists`, `is_directory` and `is_file` (`ferrocp.hpp:345-361`) differ only in the native
    query: each answers whether it returned nonzero. -/
def queryPath (query : NativeCall) (returned : Int) : Cpp Bool := do
  emit (.call query)
  return returned ≠ 0

/-- `path_exists` (`ferrocp.hpp:345-347`). -/
def pathExists (path : String) (returned : Int) : Cpp Bool :=
  queryPath (.pathExists path) returned

/-- `is_directory` (`ferrocp.hpp:352-354`). -/
def isDirectory (path : String) (returned : Int) : Cpp Bool :=
  queryPath (.isDirectory path) returned

/-- `is_file` (`ferrocp.hpp:359-361`). -/
def isFile (path : String) (returned : Int) : Cpp Bool :=
  queryPath (.isFile path) returned

/-- `get_file_size` (`ferrocp.hpp:366-368`). -/
def getFileSize (path : String) (returned : UInt64) : Cpp UInt64 := do
  emit (.call (.getFileSize path))
  return returned

/-- `join_paths` and `normalize_path` (`ferrocp.hpp:373-396`) differ only in the native call and
    the message of the exception a null result throws; a string is copied, then freed. -/
def ownedString (call : NativeCall) (failure : String) (returned : Option String) : Cpp String := do
  emit (.call call)
  match returned with
  | none => throw (.ferrocp (Exception.new failure ferrocpErrorGeneric))
  | some text =>
    emit (.read .string)
    emit (.call .freeString)
    return text

/-- `join_paths` (`ferrocp.hpp:373-382`). -/
def joinPaths (path1 path2 : String) (returned : Option String) : Cpp String :=
  ownedString (.joinPaths path1 path2) ("Failed to join paths: " ++ path1 ++ " and " ++ path2)
    returned

/-- `normalize_path` (`ferrocp.hpp:387-396`). -/
def normalizePath (path : String) (returned : Option String) : Cpp String :=
  ownedString (.normalizePath path) ("Failed to normalize path: " ++ path) returned

theorem ownedString_run (call : NativeCall) (failure : String) (returned : Option String)
    (t : List Effect) :
    ownedString call failure returned t =
      match returned with
      | none => .error (.ferrocp (Exception.new failure ferrocpErrorGeneric)) (t ++ [.call call])
      | some text => .ok text (t ++ [.call call, .read .string, .call .freeString]) := by
  cases returned <;> simp [ownedString]

end FerroCP
