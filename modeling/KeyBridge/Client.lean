-- SUMMARY: The script code of clients: the client class and the code that creates a client.
import KeyBridge.Config.Basic
import KeyBridge.Engine.Basic
import KeyBridge.Script.Statement
import KeyBridge.Text.Literal
import KeyBridge.Text.Replace

/-!
# Clients

A script talks to its host through a client object, which stands in a variable. The stub defines
the class of the object and a function that sends a message through it. It is added to a script
only once: its presence is seen from a function that it defines.
-/

namespace KeyBridge.Client

/-! ## The stub -/

/-- The function whose presence tells that a script has the stub. -/
def probe : String := "PipeClient_GetVersion"

/-- The word of the template that stands for the client's variable. -/
def variableMark : String := "__CLIENT_VAR__"

/-- The word of the template that stands for the size of the client's buffer. -/
def sizeMark : String := "__BUFFER_SIZE__"

def templateLines : List String :=
  [ "PipeClient_GetVersion() \x7b",
    "    return \"1\"",
    "\x7d",
    "",
    "class PipeClient \x7b",
    "    __New(name) \x7b",
    "        this.path := \"\\\\.\\pipe\\\" name",
    "        this.handle := -1",
    "        this.size := __BUFFER_SIZE__",
    "    \x7d",
    "",
    "    Open() \x7b",
    "        if (this.handle != -1)",
    "            return true",
    "        this.handle := DllCall(\"CreateFile\", \"Str\", this.path, \"UInt\", 0xC0000000, \"UInt\", 0, \"Ptr\", 0, \"UInt\", 3, \"UInt\", 0, \"Ptr\", 0, \"Ptr\")",
    "        return this.handle != -1",
    "    \x7d",
    "",
    "    Send(msg) \x7b",
    "        if (!this.Open())",
    "            return \"\"",
    "        outSize := (StrLen(msg) + 1) * 2",
    "        VarSetCapacity(outBuf, outSize, 0)",
    "        StrPut(msg, &outBuf, \"UTF-16\")",
    "        if (!DllCall(\"WriteFile\", \"Ptr\", this.handle, \"Ptr\", &outBuf, \"UInt\", outSize, \"UInt*\", written, \"Ptr\", 0)) \x7b",
    "            this.Close()",
    "            return \"\"",
    "        \x7d",
    "        VarSetCapacity(inBuf, this.size, 0)",
    "        if (!DllCall(\"ReadFile\", \"Ptr\", this.handle, \"Ptr\", &inBuf, \"UInt\", this.size, \"UInt*\", got, \"Ptr\", 0)) \x7b",
    "            this.Close()",
    "            return \"\"",
    "        \x7d",
    "        return StrGet(&inBuf, \"UTF-16\")",
    "    \x7d",
    "",
    "    Close() \x7b",
    "        if (this.handle != -1)",
    "            DllCall(\"CloseHandle\", \"Ptr\", this.handle)",
    "        this.handle := -1",
    "    \x7d",
    "\x7d",
    "",
    "SendPipeMessage(msg) \x7b",
    "    global __CLIENT_VAR__",
    "    return __CLIENT_VAR__.Send(msg)",
    "\x7d" ]

def template : String := String.join (templateLines.map (· ++ "\n"))

/-- The stub for a configuration. The variable is put in first, so a variable that contains the
mark of the size gets the size too. -/
def stub (c : BridgeConfig) : String :=
  Text.replaceAll sizeMark (toString c.bufferSize)
    (Text.replaceAll variableMark c.clientVariable template)

/-! ## Creating clients -/

/-- The literal for the name of a channel; a blank name has the empty literal. -/
def nameLiteral (channel : String) : String := (Text.quote channel).getD "\"\""

def creation (c : BridgeConfig) (channel : String) : String :=
  Statement.assign c.clientVariable ("new PipeClient(" ++ nameLiteral channel ++ ")")

/-- What makes a script ready for a new client: a script without the stub gets it, one with it
closes its client. -/
def preparation (c : BridgeConfig) (hasStub : Bool) : String :=
  if hasStub then c.clientVariable ++ ".Close()\n" else stub c

/-- The code that makes a script the client of a channel. -/
def setUp (c : BridgeConfig) (hasStub : Bool) (channel : String) : String :=
  preparation c hasStub ++ creation c channel ++ "\n"

def setUpFor {σ : Type} [ScriptEngine σ] (e : σ) (c : BridgeConfig) (channel : String) : String :=
  setUp c (ScriptEngine.functionExists e probe) channel

end KeyBridge.Client
