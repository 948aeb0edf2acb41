import Wristband.Frame.Command

/-! How a tag reads the commands that reach it. -/

namespace Wristband

inductive TagCommand where
  | getVersion
  | read (page : UInt8)
  | write (page : UInt8) (data : Bytes)
  | authenticate (slot : UInt8)
  | continueAuthentication (message : Bytes)
  | unknown
deriving DecidableEq, Repr

/-- The first byte tells the command and the length must fit it. -/
def TagCommand.ofFrame : Bytes → TagCommand
  | [] => unknown
  | code :: arguments =>
    if code = CommandCode.getVersion.code then
      if arguments = [] then getVersion else unknown
    else if code = CommandCode.read.code then
      match arguments with
      | [page] => read page
      | _ => unknown
    else if code = CommandCode.write.code then
      match arguments with
      | page :: data => if data.length = Layout.pageSize then write page data else unknown
      | [] => unknown
    else if code = CommandCode.authenticate.code then
      match arguments with
      | [slot] => authenticate slot
      | _ => unknown
    else if code = CommandCode.continueAuthentication.code then
      if arguments.length = Frame.responseLength then continueAuthentication arguments
      else unknown
    else unknown

end Wristband
