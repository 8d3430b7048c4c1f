import PythonForWindows.Basic
import PythonForWindows.Process.Memory
import PythonForWindows.Process.Write
import PythonForWindows.Process.Strings
import PythonForWindows.Peb.Modules
import PythonForWindows.Process.MemoryState
import PythonForWindows.System.Toolhelp
import PythonForWindows.Utils.Sprint
import PythonForWindows.Utils.FixedProperty
import PythonForWindows.System.Handles
import PythonForWindows.System.Library
import PythonForWindows.Process.Execute
