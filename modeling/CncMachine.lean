import CncMachine.Transition.Run
import CncMachine.Transition.Holds
import CncMachine.Numeric.Wrap
import CncMachine.Board.Debouncer
import CncMachine.Board.Timer
import CncMachine.Board.Buzzer
import CncMachine.Display.Lcd
import CncMachine.Display.Line
import CncMachine.Panel.Acting
import CncMachine.Panel.Requests
import CncMachine.Panel.Polling
import CncMachine.Panel.Jogging
import CncMachine.Panel.JogLines
import CncMachine.Panel.Adjusting
import CncMachine.Panel.Touch
import CncMachine.Panel.Tables
import CncMachine.Panel.Coherence
import CncMachine.Panel.Texts
import CncMachine.Comm.Framing
import CncMachine.Comm.Commands
import CncMachine.Comm.Mirror
import CncMachine.Comm.Bounds
import CncMachine.Pendant.Handshake
import CncMachine.Pendant.Grammar
import CncMachine.Pendant.Indicators
import CncMachine.Link.Spindle
import CncMachine.Link.Hold
import CncMachine.Link.Motion
import CncMachine.Link.Sleep
import CncMachine.Link.Frame
import CncMachine.Link.Repeat
import CncMachine.Plant.Modes
import CncMachine.Plant.Following
import CncMachine.Controller.Motors
import CncMachine.Controller.Stepping
import CncMachine.Controller.Optimal
import CncMachine.Controller.Executive
import CncMachine.Controller.Handover
import CncMachine.Controller.Telling
