import GeoBridge.Fault
import GeoBridge.Text.Quoted

/-!
Owns files that hold modules: by which names they are told, and what keeps them from being loaded.

Owns:
- the forms of module files: source text, compiled text, and shared objects of the machine;
- the flaws in the head of a compiled module or a shared object, the first of which is reported.
-/

namespace GeoBridge

/-- The form of a module file. -/
inductive ModuleForm where
  | source
  | compiled
  | shared
deriving DecidableEq, Repr

/-- The form that the name of a file tells. A name that is all ending is one of that form. -/
def ModuleForm.ofName? (name : String) : Option ModuleForm :=
  if name.endsWith ".so" then some .shared
  else if name.endsWith ".py" then some .source
  else if name.endsWith ".pyc" then some .compiled
  else none

namespace ModuleFile

/-- A fault of the given flaw. -/
def flawed (flaw : ModuleFlaw) (message : String) : Option Fault :=
  some (.flawedModule flaw message)

/-- The octets that a shared object begins with, before those that tell the machine. -/
def sharedMark : List UInt8 := [0x7F, 0x45, 0x4C, 0x46]

/-- Why a shared object cannot be loaded, judged by its head. -/
def sharedReason? (octets : List UInt8) : Option String :=
  if octets.length < 64 then some "file too short"
  else if octets.take 4 ≠ sharedMark then some "invalid ELF header"
  else if octets[4]? ≠ some 2 then some "wrong ELF class: ELFCLASS32"
  else if octets[5]? ≠ some 1 then some "ELF file data encoding not little-endian"
  else if octets[6]? ≠ some 1 then some "ELF file version ident does not match current one"
  else none

/-- The fault of a shared object at an absolute path. -/
def sharedFault? (absolute : String) (octets : List UInt8) : Option Fault :=
  (sharedReason? octets).bind fun reason => flawed .unusable (absolute ++ ": " ++ reason)

/-- The octets that a compiled module begins with. Every edition of the compiler has its own; this
is the oldest that the program runs on. -/
def compiledMark : List UInt8 := [0xCB, 0x0D, 0x0D, 0x0A]

/-- The number that octets spell, the least significant first. -/
def numberOf (octets : List UInt8) : Nat :=
  octets.foldr (fun octet value => octet.toNat + 256 * value) 0

/-- The least count of octets that has to follow each mark of a value. -/
def valueSizes : List (Char × Nat) :=
  [('N', 0), ('T', 0), ('F', 0), ('S', 0), ('.', 0), ('\x7b', 0), ('f', 1), ('x', 1), (')', 1),
   ('z', 1), ('Z', 1), ('i', 4), ('l', 4), ('s', 4), ('t', 4), ('a', 4), ('A', 4), ('u', 4),
   ('(', 4), ('[', 4), ('<', 4), ('>', 4), ('r', 4), ('c', 20), ('I', 8), ('g', 8), ('y', 16)]

/-- The fault of the value in a compiled module at an absolute path. Only code can be loaded. -/
def valueFault? (absolute : String) : List UInt8 → Option Fault
  | [] => flawed .truncated "EOF read where object expected"
  | mark :: rest =>
      match valueSizes.lookup (Char.ofNat (mark.toNat % 128)) with
      | none => flawed .garbled "bad marshal data (unknown type code)"
      | some size =>
          if rest.length < size then
            flawed .truncated
              (if size = 1 && rest.isEmpty && (mark == 0x66 || mark == 0x78) then
                "EOF read where not expected"
              else "marshal data too short")
          else if mark % 128 == 0x63 then none
          else flawed .unusable ("Non-code object in " ++ Text.quoted absolute)

/-- The fault of a compiled module at an absolute path, which is named after its file, where
compiled modules begin with the given mark. -/
def compiledFault? (mark : List UInt8) (name absolute : String) (octets : List UInt8) :
    Option Fault :=
  let shown := Text.quoted name
  let switches := numberOf ((octets.drop 4).take 4)
  if octets.take 4 ≠ mark then
    flawed .unusable
      ("bad magic number in " ++ shown ++ ": " ++ Text.quotedOctets (octets.take 4))
  else if octets.length < 16 then
    flawed .truncated ("reached EOF while reading pyc header of " ++ shown)
  else if 3 < switches then
    flawed .unusable ("invalid flags " ++ toString switches ++ " in " ++ shown)
  else valueFault? absolute (octets.drop 16)

/-- What keeps a module file from being loaded, if anything can be told from its head. Source text
always loads. -/
def fault? (mark : List UInt8) (form : ModuleForm) (name absolute : String)
    (octets : List UInt8) : Option Fault :=
  match form with
  | .source => none
  | .compiled => compiledFault? mark name absolute octets
  | .shared => sharedFault? absolute octets

end ModuleFile

end GeoBridge
