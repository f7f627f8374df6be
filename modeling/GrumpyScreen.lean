import GrumpyScreen.MoveGate
import GrumpyScreen.MidPrint
import GrumpyScreen.EstopReach
import GrumpyScreen.Confirm
import GrumpyScreen.Logbook
import GrumpyScreen.Seed
import GrumpyScreen.Replies
import GrumpyScreen.Boot
import GrumpyScreen.Screens
import GrumpyScreen.Superseded
import GrumpyScreen.Subscribe
import GrumpyScreen.ForeignId
import GrumpyScreen.Dispatch
import GrumpyScreen.Replica
import GrumpyScreen.Dialogue
import GrumpyScreen.PromptCover
import GrumpyScreen.Leftover
import GrumpyScreen.CalRuns
import GrumpyScreen.FilesList
import GrumpyScreen.ConfigText
import GrumpyScreen.Selections
import GrumpyScreen.InstallChip
import GrumpyScreen.Handlers
import GrumpyScreen.TempLabels
import GrumpyScreen.BedMesh
import GrumpyScreen.FanMesh
import GrumpyScreen.BusyOwner
import GrumpyScreen.WifiJoin
import GrumpyScreen.ActionLine
import GrumpyScreen.Cli
import GrumpyScreen.Pidfile
import GrumpyScreen.TempFilter
import GrumpyScreen.TempReport
import GrumpyScreen.ConfigGet
import GrumpyScreen.ConfigWritten
import GrumpyScreen.Accessors
import GrumpyScreen.SpoolTable
import GrumpyScreen.Spoolman
import GrumpyScreen.PathGuard
import GrumpyScreen.CalMessage
import GrumpyScreen.Lib.Lines
import GrumpyScreen.Lib.TextArea
import GrumpyScreen.BusyWatchdog
import GrumpyScreen.Console
import GrumpyScreen.SpoolActions
import GrumpyScreen.SpoolSort
import GrumpyScreen.Lib.Rounding
import GrumpyScreen.Lib.Binary64
import GrumpyScreen.KeypadNumber
import GrumpyScreen.OverlayRule
import GrumpyScreen.Questions
import GrumpyScreen.CommandLimits
import GrumpyScreen.Rescue
import GrumpyScreen.Pages
import GrumpyScreen.ScreenSaver
import GrumpyScreen.BootProgress
import GrumpyScreen.Cockpit
import GrumpyScreen.Copies
import GrumpyScreen.KeypadTarget
import GrumpyScreen.SavedNetworks
import GrumpyScreen.WifiRuns
import GrumpyScreen.Unanswered
import GrumpyScreen.Wired
import GrumpyScreen.WiredRuns
