-- SUMMARY: How scripts spell keys: labels, click buttons and modifier symbols.
import KeyBridge.Key.Basic

/-!
# Key labels

A key may have a *label*, the word that `Send` braces and hotkey headers use for it; a mouse
button also has a *click label* for `Click`, and a modifier key a *symbol* that goes in front of
a hotkey's trigger. `Key.windows` stands for either Windows key and has a symbol but no label.
-/

namespace KeyBridge

/-! ## Labels -/

/-- The word for a key inside `Send` braces and in hotkey headers, if it has one. -/
def Key.label : Key → Option String
  | .leftButton => some "LButton"
  | .rightButton => some "RButton"
  | .middleButton => some "MButton"
  | .xButton1 => some "XButton1"
  | .xButton2 => some "XButton2"
  | .wheelDown => some "WheelDown"
  | .wheelUp => some "WheelUp"
  | .wheelLeft => some "WheelLeft"
  | .wheelRight => some "WheelRight"
  | .capsLock => some "CapsLock"
  | .space => some "Space"
  | .tab => some "Tab"
  | .enter => some "Enter"
  | .escape => some "Escape"
  | .backspace => some "Back"
  | .scrollLock => some "ScrollLock"
  | .delete => some "Delete"
  | .insert => some "Insert"
  | .home => some "Home"
  | .endKey => some "End"
  | .pageUp => some "PgUp"
  | .pageDown => some "PgDown"
  | .upArrow => some "Up"
  | .downArrow => some "Down"
  | .leftArrow => some "Left"
  | .rightArrow => some "Right"
  | .numpad0 => some "Numpad0"
  | .numpad1 => some "Numpad1"
  | .numpad2 => some "Numpad2"
  | .numpad3 => some "Numpad3"
  | .numpad4 => some "Numpad4"
  | .numpad5 => some "Numpad5"
  | .numpad6 => some "Numpad6"
  | .numpad7 => some "Numpad7"
  | .numpad8 => some "Numpad8"
  | .numpad9 => some "Numpad9"
  | .numLock => some "NumLock"
  | .numpadDot => some "NumpadDot"
  | .numpadDivide => some "NumpadDiv"
  | .numpadMultiply => some "NumpadMult"
  | .numpadAdd => some "NumpadAdd"
  | .numpadSubtract => some "NumpadSub"
  | .numpadEnter => some "NumpadEnter"
  | .f1 => some "F1"
  | .f2 => some "F2"
  | .f3 => some "F3"
  | .f4 => some "F4"
  | .f5 => some "F5"
  | .f6 => some "F6"
  | .f7 => some "F7"
  | .f8 => some "F8"
  | .f9 => some "F9"
  | .f10 => some "F10"
  | .f11 => some "F11"
  | .f12 => some "F12"
  | .f13 => some "F13"
  | .f14 => some "F14"
  | .f15 => some "F15"
  | .f16 => some "F16"
  | .f17 => some "F17"
  | .f18 => some "F18"
  | .f19 => some "F19"
  | .f20 => some "F20"
  | .f21 => some "F21"
  | .f22 => some "F22"
  | .f23 => some "F23"
  | .f24 => some "F24"
  | .leftWindows => some "LWin"
  | .rightWindows => some "RWin"
  | .control => some "Control"
  | .alt => some "Alt"
  | .shift => some "Shift"
  | .leftControl => some "LControl"
  | .rightControl => some "RControl"
  | .leftShift => some "LShift"
  | .rightShift => some "RShift"
  | .leftAlt => some "LAlt"
  | .rightAlt => some "RAlt"
  | .browserBack => some "Browser_Back"
  | .browserForward => some "Browser_Forward"
  | .browserRefresh => some "Browser_Refresh"
  | .browserStop => some "Browser_Stop"
  | .browserSearch => some "Browser_Search"
  | .browserFavorites => some "Browser_Favorites"
  | .browserHome => some "Browser_Home"
  | .volumeMute => some "Volume_Mute"
  | .volumeDown => some "Volume_Down"
  | .volumeUp => some "Volume_Up"
  | .mediaNext => some "Media_Next"
  | .mediaPrev => some "Media_Prev"
  | .mediaStop => some "Media_Stop"
  | .mediaPlayPause => some "Media_Play_Pause"
  | .launchMail => some "Launch_Mail"
  | .launchMediaSelect => some "Launch_Media_Select"
  | .launchApp1 => some "Launch_App1"
  | .launchApp2 => some "Launch_App2"
  | .cancel => some "Cancel"
  | .clear => some "Clear"
  | .pause => some "Pause"
  | .printScreen => some "PrtSc"
  | .help => some "Help"
  | .apps => some "Apps"
  | .sleep => some "Sleep"
  | .digit0 => some "0"
  | .digit1 => some "1"
  | .digit2 => some "2"
  | .digit3 => some "3"
  | .digit4 => some "4"
  | .digit5 => some "5"
  | .digit6 => some "6"
  | .digit7 => some "7"
  | .digit8 => some "8"
  | .digit9 => some "9"
  | .letterA => some "a"
  | .letterB => some "b"
  | .letterC => some "c"
  | .letterD => some "d"
  | .letterE => some "e"
  | .letterF => some "f"
  | .letterG => some "g"
  | .letterH => some "h"
  | .letterI => some "i"
  | .letterJ => some "j"
  | .letterK => some "k"
  | .letterL => some "l"
  | .letterM => some "m"
  | .letterN => some "n"
  | .letterO => some "o"
  | .letterP => some "p"
  | .letterQ => some "q"
  | .letterR => some "r"
  | .letterS => some "s"
  | .letterT => some "t"
  | .letterU => some "u"
  | .letterV => some "v"
  | .letterW => some "w"
  | .letterX => some "x"
  | .letterY => some "y"
  | .letterZ => some "z"
  | .windows => none

/-- The name of a button for `Click`; only the five clickable mouse buttons have one. -/
def Key.clickLabel : Key → Option String
  | .leftButton => some "Left"
  | .rightButton => some "Right"
  | .middleButton => some "Middle"
  | .xButton1 => some "X1"
  | .xButton2 => some "X2"
  | _ => none

def Key.modifierSymbol : Key → Option String
  | .shift => some "+"
  | .control => some "^"
  | .alt => some "!"
  | .windows => some "#"
  | .leftWindows => some "<#"
  | .rightWindows => some ">#"
  | .leftShift => some "<+"
  | .rightShift => some ">+"
  | .leftControl => some "<^"
  | .rightControl => some ">^"
  | .leftAlt => some "<!"
  | .rightAlt => some ">!"
  | _ => none

/-! ## Kinds of keys -/

def Key.isModifier (k : Key) : Bool := k.modifierSymbol.isSome

def Key.isMouse (k : Key) : Bool := k.clickLabel.isSome

/-- A keyboard key can be sent and is no clickable mouse button. -/
def Key.isKeyboard (k : Key) : Bool := k.label.isSome && !k.isMouse

/-- Only the key that stands for either Windows key has no label. -/
theorem Key.label_eq_none_iff (k : Key) : k.label = none ↔ k = .windows := by
  constructor <;> intro h <;> cases k <;> first | rfl | cases h

theorem Key.label_isSome_of_isMouse {k : Key} (h : k.isMouse = true) : k.label.isSome = true := by
  cases k <;> first | rfl | cases h

end KeyBridge
