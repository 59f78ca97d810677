/-
This file names the places where the program keeps its files. All of them lie in one directory of
the operator's home.
-/

import OperatorDesk.Files

namespace OperatorDesk.Places

/-- The name of the program's own directory. -/
def homeName : String := ".admiral"

/-- The name of the settings file. -/
def settingsName : String := "config.yaml"

/-- The name of the directory of logs. -/
def logsName : String := "logs"

/-- The name of the log. -/
def logName : String := "admiral.log"

/-- The program's own directory in an operator's home. -/
def home (operatorHome : String) : String :=
  Files.join operatorHome homeName

/-- The settings file that is read unless another is named. -/
def settingsFile (operatorHome : String) : String :=
  Files.join (home operatorHome) settingsName

/-- The directory of logs that is used unless another is named. -/
def logDirectory (operatorHome : String) : String :=
  Files.join (home operatorHome) logsName

/-- The log in the usual directory. -/
def logFile (operatorHome : String) : String :=
  Files.join (logDirectory operatorHome) logName

end OperatorDesk.Places
