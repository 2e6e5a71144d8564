-- SUMMARY: The keys, their order and their canonical names.
/-!
# Keys

A `Key` is a mouse button, a wheel movement, a keyboard key, a modifier or a media key. Its
spellings in scripts are tables of their own (`Key.label` and its neighbours); the canonical
name of a key is the one that data formats use.
-/

namespace KeyBridge

/-! ## The keys -/

/-- A logical key, independent of how a script spells it. -/
inductive Key where
  -- mouse
  | leftButton | rightButton | middleButton | xButton1 | xButton2 | wheelDown | wheelUp
  | wheelLeft | wheelRight
  -- general
  | capsLock | space | tab | enter | escape | backspace
  -- cursor control
  | scrollLock | delete | insert | home | endKey | pageUp | pageDown | upArrow | downArrow
  | leftArrow | rightArrow
  -- numpad
  | numpad0 | numpad1 | numpad2 | numpad3 | numpad4 | numpad5 | numpad6 | numpad7 | numpad8
  | numpad9 | numLock | numpadDot | numpadDivide | numpadMultiply | numpadAdd | numpadSubtract
  | numpadEnter
  -- function row
  | f1 | f2 | f3 | f4 | f5 | f6 | f7 | f8 | f9 | f10 | f11 | f12 | f13 | f14 | f15 | f16 | f17
  | f18 | f19 | f20 | f21 | f22 | f23 | f24
  -- modifiers
  | windows | leftWindows | rightWindows | control | alt | shift | leftControl | rightControl
  | leftShift | rightShift | leftAlt | rightAlt
  -- media
  | browserBack | browserForward | browserRefresh | browserStop | browserSearch
  | browserFavorites | browserHome | volumeMute | volumeDown | volumeUp | mediaNext | mediaPrev
  | mediaStop | mediaPlayPause | launchMail | launchMediaSelect | launchApp1 | launchApp2
  -- other
  | cancel | clear | pause | printScreen | help | apps | sleep
  -- number row
  | digit0 | digit1 | digit2 | digit3 | digit4 | digit5 | digit6 | digit7 | digit8 | digit9
  -- alphabet
  | letterA | letterB | letterC | letterD | letterE | letterF | letterG | letterH | letterI
  | letterJ | letterK | letterL | letterM | letterN | letterO | letterP | letterQ | letterR
  | letterS | letterT | letterU | letterV | letterW | letterX | letterY | letterZ
deriving DecidableEq, Repr

/-- Every key, in the order of declaration. -/
def Key.all : List Key := [
  .leftButton, .rightButton, .middleButton, .xButton1, .xButton2, .wheelDown, .wheelUp,
  .wheelLeft, .wheelRight, .capsLock, .space, .tab, .enter, .escape, .backspace, .scrollLock,
  .delete, .insert, .home, .endKey, .pageUp, .pageDown, .upArrow, .downArrow, .leftArrow,
  .rightArrow, .numpad0, .numpad1, .numpad2, .numpad3, .numpad4, .numpad5, .numpad6, .numpad7,
  .numpad8, .numpad9, .numLock, .numpadDot, .numpadDivide, .numpadMultiply, .numpadAdd,
  .numpadSubtract, .numpadEnter, .f1, .f2, .f3, .f4, .f5, .f6, .f7, .f8, .f9, .f10, .f11, .f12,
  .f13, .f14, .f15, .f16, .f17, .f18, .f19, .f20, .f21, .f22, .f23, .f24, .windows, .leftWindows,
  .rightWindows, .control, .alt, .shift, .leftControl, .rightControl, .leftShift, .rightShift,
  .leftAlt, .rightAlt, .browserBack, .browserForward, .browserRefresh, .browserStop,
  .browserSearch, .browserFavorites, .browserHome, .volumeMute, .volumeDown, .volumeUp,
  .mediaNext, .mediaPrev, .mediaStop, .mediaPlayPause, .launchMail, .launchMediaSelect,
  .launchApp1, .launchApp2, .cancel, .clear, .pause, .printScreen, .help, .apps, .sleep, .digit0,
  .digit1, .digit2, .digit3, .digit4, .digit5, .digit6, .digit7, .digit8, .digit9, .letterA,
  .letterB, .letterC, .letterD, .letterE, .letterF, .letterG, .letterH, .letterI, .letterJ,
  .letterK, .letterL, .letterM, .letterN, .letterO, .letterP, .letterQ, .letterR, .letterS,
  .letterT, .letterU, .letterV, .letterW, .letterX, .letterY, .letterZ]

def Key.name : Key → String
  | .leftButton => "LeftButton"
  | .rightButton => "RightButton"
  | .middleButton => "MiddleButton"
  | .xButton1 => "XButton1"
  | .xButton2 => "XButton2"
  | .wheelDown => "WheelDown"
  | .wheelUp => "WheelUp"
  | .wheelLeft => "WheelLeft"
  | .wheelRight => "WheelRight"
  | .capsLock => "CapsLock"
  | .space => "Space"
  | .tab => "Tab"
  | .enter => "Enter"
  | .escape => "Escape"
  | .backspace => "Backspace"
  | .scrollLock => "ScrollLock"
  | .delete => "Delete"
  | .insert => "Insert"
  | .home => "Home"
  | .endKey => "End"
  | .pageUp => "PageUp"
  | .pageDown => "PageDown"
  | .upArrow => "UpArrow"
  | .downArrow => "DownArrow"
  | .leftArrow => "LeftArrow"
  | .rightArrow => "RightArrow"
  | .numpad0 => "Numpad0"
  | .numpad1 => "Numpad1"
  | .numpad2 => "Numpad2"
  | .numpad3 => "Numpad3"
  | .numpad4 => "Numpad4"
  | .numpad5 => "Numpad5"
  | .numpad6 => "Numpad6"
  | .numpad7 => "Numpad7"
  | .numpad8 => "Numpad8"
  | .numpad9 => "Numpad9"
  | .numLock => "NumLock"
  | .numpadDot => "NumpadDot"
  | .numpadDivide => "NumpadDivide"
  | .numpadMultiply => "NumpadMultiply"
  | .numpadAdd => "NumpadAdd"
  | .numpadSubtract => "NumpadSubtract"
  | .numpadEnter => "NumpadEnter"
  | .f1 => "F1"
  | .f2 => "F2"
  | .f3 => "F3"
  | .f4 => "F4"
  | .f5 => "F5"
  | .f6 => "F6"
  | .f7 => "F7"
  | .f8 => "F8"
  | .f9 => "F9"
  | .f10 => "F10"
  | .f11 => "F11"
  | .f12 => "F12"
  | .f13 => "F13"
  | .f14 => "F14"
  | .f15 => "F15"
  | .f16 => "F16"
  | .f17 => "F17"
  | .f18 => "F18"
  | .f19 => "F19"
  | .f20 => "F20"
  | .f21 => "F21"
  | .f22 => "F22"
  | .f23 => "F23"
  | .f24 => "F24"
  | .windows => "Windows"
  | .leftWindows => "LeftWindows"
  | .rightWindows => "RightWindows"
  | .control => "Control"
  | .alt => "Alt"
  | .shift => "Shift"
  | .leftControl => "LeftControl"
  | .rightControl => "RightControl"
  | .leftShift => "LeftShift"
  | .rightShift => "RightShift"
  | .leftAlt => "LeftAlt"
  | .rightAlt => "RightAlt"
  | .browserBack => "BrowserBack"
  | .browserForward => "BrowserForward"
  | .browserRefresh => "BrowserRefresh"
  | .browserStop => "BrowserStop"
  | .browserSearch => "BrowserSearch"
  | .browserFavorites => "BrowserFavorites"
  | .browserHome => "BrowserHome"
  | .volumeMute => "VolumeMute"
  | .volumeDown => "VolumeDown"
  | .volumeUp => "VolumeUp"
  | .mediaNext => "MediaNext"
  | .mediaPrev => "MediaPrev"
  | .mediaStop => "MediaStop"
  | .mediaPlayPause => "MediaPlayPause"
  | .launchMail => "LaunchMail"
  | .launchMediaSelect => "LaunchMediaSelect"
  | .launchApp1 => "LaunchApp1"
  | .launchApp2 => "LaunchApp2"
  | .cancel => "Cancel"
  | .clear => "Clear"
  | .pause => "Pause"
  | .printScreen => "PrintScreen"
  | .help => "Help"
  | .apps => "Apps"
  | .sleep => "Sleep"
  | .digit0 => "Num0"
  | .digit1 => "Num1"
  | .digit2 => "Num2"
  | .digit3 => "Num3"
  | .digit4 => "Num4"
  | .digit5 => "Num5"
  | .digit6 => "Num6"
  | .digit7 => "Num7"
  | .digit8 => "Num8"
  | .digit9 => "Num9"
  | .letterA => "A"
  | .letterB => "B"
  | .letterC => "C"
  | .letterD => "D"
  | .letterE => "E"
  | .letterF => "F"
  | .letterG => "G"
  | .letterH => "H"
  | .letterI => "I"
  | .letterJ => "J"
  | .letterK => "K"
  | .letterL => "L"
  | .letterM => "M"
  | .letterN => "N"
  | .letterO => "O"
  | .letterP => "P"
  | .letterQ => "Q"
  | .letterR => "R"
  | .letterS => "S"
  | .letterT => "T"
  | .letterU => "U"
  | .letterV => "V"
  | .letterW => "W"
  | .letterX => "X"
  | .letterY => "Y"
  | .letterZ => "Z"

theorem Key.mem_all (k : Key) : k ∈ Key.all := by
  cases k <;> decide +kernel

end KeyBridge
