import CncMachine.Panel.Gate
import CncMachine.Plant.Report
import CncMachine.Protocol.Toggle

/-!
# Panel and controller together

The controller takes the panel's packets one by one. It flips its MPG mode on a toggle byte and
answers it with a status report that carries the new mode; spindle commands and coolant toggles
change its accessories. It may send status reports and other lines at any time. Packets and lines
arrive in the order in which they were sent. Menu cycles, ticks and frames from the pendant come in
between, in any order and with any content.
-/

namespace Cnc

open Transition

/-- What a packet does to spindle and coolant. -/
def Accessories.execute (a : Accessories) : Packet → Accessories
  | .spindle 3 _ => { a with spindleOn := true, spindleCcw := false }
  | .spindle 4 _ => { a with spindleOn := true, spindleCcw := true }
  | .spindle 5 _ => { a with spindleOn := false }
  | .coolantFloodToggle => { a with flood := !a.flood }
  | .coolantMistToggle => { a with mist := !a.mist }
  | _ => a

/-- A line that is no status report. -/
structure OtherLine where
  text : List Char
  other : text.head? ≠ some '<'

/-- What the controller has sent. A status report has the mode and the accessories of its sending;
`answer` tells whether a toggle byte has caused it. -/
inductive Line where
  | status (report : StatusReport) (mode : Bool) (accessories : Accessories) (answer : Bool)
  | other (line : OtherLine)

def Line.text : Line → List Char
  | .status report mode accessories _ => report.text mode accessories
  | .other line => line.text

/-- What a line says about the MPG mode. -/
def Line.modeReport : Line → Option Toggle.Report
  | .status report mode _ answer => if report.mpg then some ⟨mode, answer⟩ else none
  | .other _ => none

structure Plant where
  panel : Panel
  mode : Bool := false
  accessories : Accessories := {}
  /-- Lines on their way to the panel. -/
  lines : List Line := []
  /-- The mode that the last call of `enable_mpg` or `disable_mpg` has asked for. -/
  requested : Bool := false
  /-- The last line about the accessories that has reached the panel was an `A:` field, and the
  accessories are still as it said. -/
  informed : Bool := false

inductive PlantEvent where
  | menu (input : MenuInput)
  | tim1 (accepted : Bool)
  | frame (frame : PendantData) (tx : Tx)
  /-- The controller takes the next packet; `report` is its answer to a toggle byte. -/
  | handle (report : StatusReport)
  | status (report : StatusReport)
  | line (line : OtherLine)
  /-- The next line reaches the panel. -/
  | deliver

namespace Plant

variable (s : Plant)

/-- A handler of the panel, with the call of `enable_mpg` or `disable_mpg` that it makes. -/
def panelStep (e : PanelEvent) (call : Option Bool) : Plant :=
  { s with panel := s.panel.step e, requested := call.getD s.requested }

def handle (report : StatusReport) : Plant :=
  match s.panel.controllerLine with
  | [] => s
  | .mpgModeToggle :: rest =>
      { s with
        panel.controllerLine := rest
        mode := !s.mode
        lines := s.lines ++ [.status { report with mpg := true } (!s.mode) s.accessories true] }
  | packet :: rest =>
      { s with
        panel.controllerLine := rest
        accessories := s.accessories.execute packet
        informed := s.informed && s.accessories.execute packet == s.accessories }

/-- Whether the panel knows about the accessories after this line. -/
def informs : Line → Bool
  | .status report _ accessories _ =>
      if report.accessories then accessories == s.accessories else s.informed
  | .other line => s.informed && !"[GC:".toList.isPrefixOf line.text

def deliver : Plant :=
  match s.lines with
  | [] => s
  | line :: rest =>
      { s with
        panel := s.panel.step (.grbl line.text)
        lines := rest
        informed := s.informs line }

/-- The call of `enable_mpg` (`true`) or `disable_mpg` (`false`) that an event makes. -/
def call : PlantEvent → Option Bool
  | .menu input => s.panel.menuCall input
  | .frame frame _ => s.panel.frameCall frame
  | _ => none

def step (s : Plant) : PlantEvent → Plant
  | .menu input => s.panelStep (.menu input) (s.panel.menuCall input)
  | .tim1 accepted => s.panelStep (.tim1 accepted) none
  | .frame frame tx => s.panelStep (.frame frame tx) (s.panel.frameCall frame)
  | .handle report => s.handle report
  | .status report => { s with lines := s.lines ++ [.status report s.mode s.accessories false] }
  | .line line => { s with lines := s.lines ++ [.other line] }
  | .deliver => s.deliver

/-- The panel after its reset, and a controller outside MPG mode, with any accessories on. -/
def initial (startup : Startup) (accessories : Accessories) : Plant where
  panel := Panel.initial startup
  accessories := accessories

end Plant

end Cnc
