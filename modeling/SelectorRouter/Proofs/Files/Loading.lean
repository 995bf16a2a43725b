import SelectorRouter.Files.Deployment
import SelectorRouter.Proofs.Fallible
import SelectorRouter.Proofs.Files.Path

/-!
# Loading modules

A file is loaded when it is the UTF-8 text of a JSON value that describes a module. What is
wrong with a file is reported as a load defect, except in three cases: a null character in the
path, bytes that are no UTF-8 text, and an integer with more digits than are read. There are no
others. A list of paths is loaded in order, up to the first path that fails.
-/

namespace SelectorRouter

/-- The bytes of a text are read as this text. -/
theorem Text.ofUtf8?_utf8 (s : String) : ofUtf8? (utf8 s) = some s := by
  rw [ofUtf8?, utf8, Array.toArray_toList, String.fromUTF8?]
  exact dif_pos s.isValidUTF8

namespace Files

open Fallible (FirstFault)

/-- The file at a path has these bytes. A path with a null character leads to no file. -/
def Holds (tree : Tree) (path : String) (bs : List UInt8) : Prop :=
  '\x00' ∉ path.toList ∧ tree.readBytes (Path.ofString path).text = .ok bs

/-- The file at a path holds a text, with its line ends as line feeds. -/
def HoldsText (tree : Tree) (path : String) (text : List Char) : Prop :=
  ∃ bs s, Holds tree path bs ∧ Text.ofUtf8? bs = some s ∧ text = Text.normalizeNewlines s.toList

/-- The file at a path is the text of a JSON value that describes a module. -/
def Describes (tree : Tree) (overrides : Overrides) (path : String) (m : Module) : Prop :=
  ∃ text data, HoldsText tree path text ∧ Json.read text = .ok data ∧
    moduleOfJson data (.str (Path.ofString path).stem) overrides = .ok m

/-- What is wrong with a path or its file, but is not reported as a load defect. -/
inductive Unreported (tree : Tree) (path : String) : Fault → Prop
  | null : '\x00' ∈ path.toList → Unreported tree path .embeddedNull
  | encoding {bs : List UInt8} : Holds tree path bs → Text.ofUtf8? bs = none →
      Unreported tree path .notUtf8
  | integer {text : List Char} {error : Json.ReadError} {digits : Nat} :
      HoldsText tree path text → Json.read text = .error error →
      error.defect = .longInteger digits → Unreported tree path (.malformedJson error)

/-- Whatever fault there is, it is a load defect. -/
def Reported (result : Except Fault Module) : Prop :=
  ∀ fault, result = .error fault → ∃ defect, fault = .load defect

variable {tree : Tree} {overrides : Overrides} {path : String} {m : Module} {fault : Fault}

/-! ## Reading the text -/

theorem contains_null_text_iff : (Path.ofString path).text.contains '\x00' = true ↔
    '\x00' ∈ path.toList := by
  rw [String.contains_char_eq, decide_eq_true_eq]
  exact Path.mem_text_ofString (by decide) (by decide) path

theorem loadModule_of_null (null : '\x00' ∈ path.toList) :
    loadModule tree overrides path = .error .embeddedNull := by
  rw [loadModule, Tree.readText, if_pos (contains_null_text_iff.mpr null)]
  rfl

theorem loadModule_of_unreadable {defect : FileDefect} (null : '\x00' ∉ path.toList)
    (unreadable : tree.readBytes (Path.ofString path).text = .error defect) :
    loadModule tree overrides path =
      .error (.load (.unreadable (Path.ofString path).text defect)) := by
  rw [loadModule, Tree.readText, if_neg (fun found => null (contains_null_text_iff.mp found)),
    unreadable]
  rfl

theorem readText_of_holds {bs : List UInt8} (holds : Holds tree path bs) (shown : String) :
    tree.readText (Path.ofString path).text shown = Tree.decode bs := by
  rw [Tree.readText, if_neg (fun found => holds.1 (contains_null_text_iff.mp found)), holds.2]

theorem loadModule_of_encoding {bs : List UInt8} (holds : Holds tree path bs)
    (encoding : Text.ofUtf8? bs = none) :
    loadModule tree overrides path = .error .notUtf8 := by
  have unread : Tree.decode bs = .error .notUtf8 := by rw [Tree.decode, encoding]
  rw [loadModule, readText_of_holds holds, unread]
  rfl

theorem holdsText_of_utf8 {text : String} (holds : Holds tree path (Text.utf8 text)) :
    HoldsText tree path (Text.normalizeNewlines text.toList) :=
  ⟨_, text, holds, Text.ofUtf8?_utf8 text, rfl⟩

theorem readText_of_holdsText {text : List Char} (h : HoldsText tree path text) (shown : String) :
    tree.readText (Path.ofString path).text shown = .ok text := by
  obtain ⟨bs, s, holds, decoded, rfl⟩ := h
  rw [readText_of_holds holds, Tree.decode, decoded]

/-! ## Reading the module -/

theorem loadModule_of_malformed {text : List Char} {error : Json.ReadError}
    (h : HoldsText tree path text) (malformed : Json.read text = .error error) :
    loadModule tree overrides path =
      match error.defect with
      | .longInteger _ => .error (.malformedJson error)
      | _ => .error (.load (.malformed (Path.ofString path).text error)) := by
  cases defect : error.defect <;>
    simp only [loadModule, readText_of_holdsText h, malformed, bind, Except.bind, defect]

theorem loadModule_of_read {text : List Char} {data : Json} (h : HoldsText tree path text)
    (read : Json.read text = .ok data) :
    loadModule tree overrides path =
      (moduleOfJson data (.str (Path.ofString path).stem) overrides).mapError fun defect =>
        .load (.unusable (some (Path.ofString path).text) defect) := by
  simp only [loadModule, readText_of_holdsText h, read, bind, Except.bind]
  cases moduleOfJson data (.str (Path.ofString path).stem) overrides <;> rfl

/-! ## Outcomes -/

theorem loadModule_of_describes (h : Describes tree overrides path m) :
    loadModule tree overrides path = .ok m := by
  obtain ⟨text, data, holds, read, described⟩ := h
  rw [loadModule_of_read holds read, described]
  rfl

theorem loadModule_of_unreported (h : Unreported tree path fault) :
    loadModule tree overrides path = .error fault := by
  cases h with
  | null null => exact loadModule_of_null null
  | encoding holds encoding => exact loadModule_of_encoding holds encoding
  | integer holds malformed long => rw [loadModule_of_malformed holds malformed, long]

theorem Unreported.ne_load (h : Unreported tree path fault) (defect : LoadDefect) :
    fault ≠ .load defect := by
  rintro rfl
  cases h

/-- A file describes a module, or it has an unreported fault, or its defect is reported. -/
theorem loadModule_cases (tree : Tree) (overrides : Overrides) (path : String) :
    (∃ m, Describes tree overrides path m) ∨ (∃ fault, Unreported tree path fault) ∨
      ∃ defect, loadModule tree overrides path = .error (.load defect) := by
  by_cases null : '\x00' ∈ path.toList
  · exact Or.inr (Or.inl ⟨_, .null null⟩)
  · cases bytes : tree.readBytes (Path.ofString path).text with
    | error defect => exact Or.inr (Or.inr ⟨_, loadModule_of_unreadable null bytes⟩)
    | ok bs =>
        cases decoded : Text.ofUtf8? bs with
        | none => exact Or.inr (Or.inl ⟨_, .encoding ⟨null, bytes⟩ decoded⟩)
        | some s =>
            have holds : HoldsText tree path (Text.normalizeNewlines s.toList) :=
              ⟨bs, s, ⟨null, bytes⟩, decoded, rfl⟩
            cases read : Json.read (Text.normalizeNewlines s.toList) with
            | error error =>
                have ended := @loadModule_of_malformed tree overrides path _ _ holds read
                cases defect : error.defect with
                | longInteger digits => exact Or.inr (Or.inl ⟨_, .integer holds read defect⟩)
                | _ =>
                    rw [defect] at ended
                    exact Or.inr (Or.inr ⟨_, ended⟩)
            | ok data =>
                have ended := @loadModule_of_read tree overrides path _ _ holds read
                cases described : moduleOfJson data (.str (Path.ofString path).stem) overrides with
                | ok m => exact Or.inl ⟨m, _, data, holds, read, described⟩
                | error defect =>
                    rw [described] at ended
                    exact Or.inr (Or.inr ⟨_, ended⟩)

/-- A path is loaded as a module exactly when its file describes it. -/
theorem loadModule_eq_ok_iff :
    loadModule tree overrides path = .ok m ↔ Describes tree overrides path m := by
  constructor
  · intro loaded
    rcases loadModule_cases tree overrides path with
      ⟨found, describes⟩ | ⟨fault, unreported⟩ | ⟨defect, failed⟩
    · obtain rfl := Except.ok.inj (loaded.symm.trans (loadModule_of_describes describes))
      exact describes
    · rw [loadModule_of_unreported unreported] at loaded
      cases loaded
    · rw [failed] at loaded
      cases loaded
  · exact loadModule_of_describes

/-- Any fault is a load defect, unless the path has an unreported fault. -/
theorem reported_iff : Reported (loadModule tree overrides path) ↔
    ∀ fault, ¬ Unreported tree path fault := by
  constructor
  · intro reported fault unreported
    obtain ⟨defect, same⟩ := reported fault (loadModule_of_unreported unreported)
    exact unreported.ne_load defect same
  · intro free fault failed
    rcases loadModule_cases tree overrides path with
      ⟨m, describes⟩ | ⟨fault, unreported⟩ | ⟨defect, reported⟩
    · rw [loadModule_of_describes describes] at failed
      cases failed
    · exact absurd unreported (free fault)
    · exact ⟨defect, Except.error.inj (failed.symm.trans reported)⟩

/-- **Loading ends in a module or in a report, but for three kinds of faults.** A path is
loaded as a module exactly when its file describes it, whatever the file tree is. Any fault is
a load defect, unless the path has a null character, the bytes of the file are no UTF-8 text,
or the JSON text has an integer that is too long; then the fault is that one. A list of paths
is loaded as the modules of its paths in order, or else it ends in the fault of the first path
that fails. -/
theorem loadModules_outcomes (tree : Tree) :
    (∀ overrides path,
      (∀ m, loadModule tree overrides path = .ok m ↔ Describes tree overrides path m) ∧
      (Reported (loadModule tree overrides path) ↔ ∀ fault, ¬ Unreported tree path fault) ∧
      ∀ fault, Unreported tree path fault → loadModule tree overrides path = .error fault) ∧
    ∀ paths,
      (∀ modules, loadModules tree paths = .ok modules ↔
        paths.map (loadModule tree .none) = modules.map .ok) ∧
      ∀ fault, loadModules tree paths = .error fault ↔
        FirstFault (loadModule tree .none) paths fault := by
  constructor
  · intro overrides path
    exact ⟨fun m => loadModule_eq_ok_iff, reported_iff, fun fault => loadModule_of_unreported⟩
  · intro paths
    exact ⟨fun modules => Fallible.mapM_eq_ok_iff_map, fun fault => Fallible.mapM_eq_error_iff⟩

/-- A file of one byte that starts no character. -/
def strayByte : Tree :=
  [(["b.json"], .bytes [0xff])]

/-- A file that is not UTF-8 ends loading in a fault that is no load defect. -/
theorem loadModule_strayByte :
    loadModule strayByte .none "b.json" = .error .notUtf8 ∧
      ¬ Reported (loadModule strayByte .none "b.json") := by
  have holds : Holds strayByte "b.json" [0xff] :=
    ⟨by decide, Fallible.eq_ok_of_toOption (by decide +kernel)⟩
  have encoding : Text.ofUtf8? [0xff] = none := by decide +kernel
  have ended : loadModule strayByte .none "b.json" = .error .notUtf8 :=
    loadModule_of_encoding holds encoding
  refine ⟨ended, fun reported => ?_⟩
  obtain ⟨defect, same⟩ := reported _ ended
  cases same

end Files

end SelectorRouter
