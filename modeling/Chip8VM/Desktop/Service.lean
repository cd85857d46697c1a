import Chip8VM.Desktop.Input
import Chip8VM.Program.Loading
import Chip8VM.Screen.Texture

/-!
# Desktop services

What a session asks of the desktop that it runs on, and how a session can fail. A desktop is given
by the events that it delivers at each poll and by the service, if any, that it refuses.
-/

namespace Chip8VM.Desktop

/-- A service of the desktop. -/
inductive Service where
  /-- The desktop itself. -/
  | desktop
  /-- Its graphics. -/
  | video
  /-- A window. -/
  | window
  /-- Something to draw on in the window. -/
  | canvas
  /-- The delivery of events. -/
  | events
  /-- A texture. -/
  | texture
  /-- Filling a texture with pixels. -/
  | update
  /-- Copying a texture to the canvas. -/
  | copy
deriving DecidableEq, Repr

/-- A window that is asked for. -/
structure Window where
  title : String
  width : UInt32
  height : UInt32
deriving DecidableEq, Repr

/-- The window of a session, each pixel being a square of the size `scale`. -/
def Window.ofScale (scale : UInt32) : Window :=
  ⟨"Chip-8", Frame.width.toUInt32 * scale, Frame.height.toUInt32 * scale⟩

/-- The size of a window is exact as long as pixels are not larger than 40. -/
theorem Window.size_ofScale {scale : UInt32} (h : scale.toNat ≤ 40) :
    (Window.ofScale scale).width.toNat = 64 * scale.toNat ∧
      (Window.ofScale scale).height.toNat = 32 * scale.toNat := by
  have hwidth : Frame.width.toUInt32.toNat = 64 := by decide
  have hheight : Frame.height.toUInt32.toNat = 32 := by decide
  simp only [Window.ofScale, UInt32.toNat_mul, hwidth, hheight]
  omega

/-- What is found at the path of a program. -/
inductive RomFile where
  /-- Nothing. -/
  | missing
  /-- A directory, which opens but cannot be read. -/
  | directory
  /-- A file. -/
  | file (contents : List UInt8)
deriving DecidableEq, Repr

/-- Why a session ended before it was closed. -/
inductive Failure where
  /-- There is nothing at the path of the program. -/
  | noRom
  /-- The program was not loaded. -/
  | loading (error : LoadError)
  /-- The desktop refused to serve. -/
  | desktop (message : String)
  /-- The desktop refused to show something. -/
  | display (message : String)
  /-- The machine stopped. -/
  | fault (reason : Fault)
deriving DecidableEq, Repr

/-- The text of a failure. -/
def Failure.message : Failure → String
  | .noRom => "No such file or directory (os error 2)"
  | .loading error => error.message
  | .desktop message => message
  | .display message => "sdl2: " ++ message
  | .fault reason => reason.message

/-- The reader of what was found, if there is something to read. -/
def RomFile.reader? : RomFile → Option (List Delivery)
  | .missing => none
  | .directory => some [.failed "Is a directory (os error 21)"]
  | .file contents => some [.data contents]

/-- Loads a machine with what was found at the path of its program. -/
def RomFile.load (rom : RomFile) (m : Machine) : Except Failure (Machine × List Event) :=
  match rom.reader? with
  | none => .error .noRom
  | some reader =>
    match m.loadFrom reader with
    | .ok loaded => .ok loaded
    | .error error => .error (.loading error)

/-- A file is loaded as its contents are. -/
theorem RomFile.load_contents (contents : List UInt8) (m : Machine) :
    (RomFile.file contents).load m = (m.load contents).mapError Failure.loading := by
  simp only [RomFile.load, RomFile.reader?, Machine.loadFrom, Delivery.readAll_singleton]
  cases m.load contents <;> rfl

end Chip8VM.Desktop

namespace Chip8VM

/-- What a session runs on. -/
structure Desktop where
  /-- The events of each poll; when they are used up, a poll finds the window closed. -/
  polls : List (List Desktop.Input)
  /-- The service that is refused, and with which message. -/
  refused : Option (Desktop.Service × String) := none
deriving DecidableEq, Repr

end Chip8VM
