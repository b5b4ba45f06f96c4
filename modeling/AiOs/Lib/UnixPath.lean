import AiOs.Lib.Split

/-! Unix paths as byte strings, read the way `std::path` documents: repeated separators,
trailing separators and `.` components are dropped, except for a leading `.`. -/
namespace AiOs

abbrev OsString := List UInt8

def separator : UInt8 := 47

def osStr (text : String) : OsString := text.toList.flatMap String.utf8EncodeChar

inductive PathComponent where
  | rootDir
  | curDir
  | parentDir
  | normal (name : OsString)
  deriving DecidableEq, Repr

/-- What one piece between separators contributes. -/
def PathComponent.ofPiece (piece : OsString) : Option PathComponent :=
  if piece = [] ∨ piece = osStr "." then none
  else if piece = osStr ".." then some .parentDir
  else some (.normal piece)

namespace OsString

def isAbsolute (path : OsString) : Bool := path.head? == some separator

/-- `Path::components`. -/
def components (path : OsString) : List PathComponent :=
  (if path.isAbsolute then [.rootDir]
    else if (path.splitOn separator).head? = some (osStr ".") then [.curDir] else [])
    ++ (path.splitOn separator).filterMap PathComponent.ofPiece

/-- `Path::file_name`: the last component, if it is an ordinary name. -/
def fileName (path : OsString) : Option OsString :=
  match path.components.getLast? with
  | some (.normal name) => some name
  | _ => none

/-- `Path::join`. -/
def join (path name : OsString) : OsString :=
  if name.isAbsolute then name
  else if path = [] ∨ path.getLast? = some separator then path ++ name
  else path ++ separator :: name

end OsString

/-- An ASCII byte only occurs in the code of its own character: every other character is coded
by its own ASCII byte or by bytes from 128 on. -/
theorem utf8EncodeChar_free {c ascii : Char} (small : ascii.val.toNat < 128) (other : c ≠ ascii) :
    UInt8.ofNat ascii.val.toNat ∉ String.utf8EncodeChar c := by
  have bytes : ∀ n : Nat, n < 256 → UInt8.ofNat ascii.val.toNat = UInt8.ofNat n →
      n = ascii.val.toNat := by
    intro n up same
    have value : ascii.val.toNat % 256 = n % 256 := by simpa using congrArg UInt8.toNat same
    omega
  have value : c.val.toNat ≠ ascii.val.toNat := fun same =>
    other (Char.ext (UInt32.toNat_inj.mp same))
  intro member
  unfold String.utf8EncodeChar at member
  dsimp only at member
  split at member
  · simp only [List.mem_cons, List.not_mem_nil, or_false] at member
    exact value (bytes _ (by omega) member)
  · split at member
    · simp only [List.mem_cons, List.not_mem_nil, or_false] at member
      rcases member with same | same <;> have := bytes _ (by omega) same <;> omega
    · split at member
      · simp only [List.mem_cons, List.not_mem_nil, or_false] at member
        rcases member with same | same | same <;> have := bytes _ (by omega) same <;> omega
      · simp only [List.mem_cons, List.not_mem_nil, or_false] at member
        rcases member with same | same | same | same <;> have := bytes _ (by omega) same <;> omega

theorem mem_osStr {text : String} {ascii : Char} (small : ascii.val.toNat < 128) :
    UInt8.ofNat ascii.val.toNat ∈ osStr text ↔ ascii ∈ text.toList := by
  have own : UInt8.ofNat ascii.val.toNat ∈ String.utf8EncodeChar ascii := by
    rw [String.utf8EncodeChar]
    rw [if_pos (Nat.le_of_lt_succ small)]
    exact List.mem_singleton_self _
  unfold osStr
  rw [List.mem_flatMap]
  constructor
  · rintro ⟨c, member, coded⟩
    by_cases same : c = ascii
    · exact same ▸ member
    · exact absurd coded (utf8EncodeChar_free small same)
  · exact fun member => ⟨ascii, member, own⟩

theorem splitOn_osStr (text : String) :
    (osStr text).splitOn separator =
      (text.toList.splitOn '/').map (·.flatMap String.utf8EncodeChar) := by
  have small : '/'.val.toNat < 128 := by decide
  exact splitOn_flatMap _ (by decide) (fun _ => utf8EncodeChar_free small) _

theorem isAbsolute_osStr (text : String) :
    OsString.isAbsolute (osStr text) = true ↔ text.toList.head? = some '/' := by
  have small : '/'.val.toNat < 128 := by decide
  unfold OsString.isAbsolute osStr
  cases text.toList with
  | nil => simp
  | cons c rest =>
    obtain ⟨first, bytes, shape⟩ := List.exists_cons_of_ne_nil (String.utf8EncodeChar_ne_nil (c := c))
    simp only [List.flatMap_cons, shape, List.cons_append, List.head?_cons, beq_iff_eq,
      Option.some.injEq]
    constructor
    · rintro rfl
      by_contra other
      exact utf8EncodeChar_free small other (by simp [shape, separator])
    · rintro rfl
      have code : String.utf8EncodeChar '/' = [separator] := by decide
      exact (List.cons.inj (shape.symm.trans code)).1

theorem toByteArray_eq_osStr (text : String) : text.toByteArray = (osStr text).toByteArray := by
  conv_lhs => rw [← String.ofList_toList (s := text)]
  rw [String.toByteArray_ofList]
  rfl

theorem length_osStr (text : String) : (osStr text).length = text.utf8ByteSize := by
  rw [← String.size_toByteArray, toByteArray_eq_osStr, List.size_toByteArray]

theorem encoding_inj {xs ys : List Char}
    (same : xs.flatMap String.utf8EncodeChar = ys.flatMap String.utf8EncodeChar) : xs = ys := by
  have strings : String.ofList xs = String.ofList ys := by
    rw [← String.toByteArray_inj, String.toByteArray_ofList, String.toByteArray_ofList,
      List.utf8Encode, List.utf8Encode, same]
  have texts := congrArg String.toList strings
  rwa [String.toList_ofList, String.toList_ofList] at texts

theorem osStr_inj {text other : String} (same : osStr text = osStr other) : text = other :=
  String.toList_inj.mp (encoding_inj same)

end AiOs
