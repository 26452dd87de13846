import FlashImage.Shell.Condition
import FlashImage.Shell.Edit.Run
import FlashImage.Shell.Records.Run
import FlashImage.Shell.Utility.Block
import FlashImage.Shell.Utility.Compare
import FlashImage.Shell.Utility.Content
import FlashImage.Shell.Utility.Digest
import FlashImage.Shell.Utility.Dump
import FlashImage.Shell.Utility.Install
import FlashImage.Shell.Utility.Line
import FlashImage.Shell.Utility.Match
import FlashImage.Shell.Utility.Message
import FlashImage.Shell.Utility.Moment
import FlashImage.Shell.Utility.Portion
import FlashImage.Shell.Utility.Search
import FlashImage.Shell.Utility.Sort
import FlashImage.Shell.Utility.Translate
import FlashImage.Shell.Utility.WideDigest

/-!
The small programs of the system by their names.
-/

set_option autoImplicit false
set_option relaxedAutoImplicit false

namespace FlashImage.Shell

def printingUtilities : List (String × (List String → Program Unit)) :=
  [("echo", printArguments), ("printf", printFormatted), ("yes", printForever),
    ("seq", printRow), ("expr", printValue), ("factor", printFactors), ("pwd", printCurrent),
    ("date", printMoment),
    ("id", printUser), ("uname", printSystem), ("tty", tellTerminal),
    ("printenv", printSettings), ("which", printPlaces),
    ("whoami", printConstant "root"), ("arch", printConstant "x86_64"),
    ("nproc", printConstant "1"), ("hostname", printConstant "localhost"),
    ("basename", printLastNames), ("dirname", printDirectories), ("readlink", printLinks),
    ("realpath", printWholePaths)]

def contentUtilities : List (String × (List String → Program Unit)) :=
  [("cat", printFiles), ("tac", printReversed), ("rev", printMirrored), ("head", printStarts),
    ("tail", printEnds), ("tee", copyInput), ("wc", printCounts), ("nl", printNumbered),
    ("fold", printFolded), ("tr", translateInput), ("sort", sortFiles), ("cut", cutFiles),
    ("uniq", dropRepeated), ("paste", pasteFiles), ("comm", printCommon), ("join", joinOnFields),
    ("expand", widenTabs), ("unexpand", narrowTabs), ("split", splitFile), ("dd", copyBlocks),
    ("grep", searchFiles 'G'), ("egrep", searchFiles 'E'), ("fgrep", searchFiles 'F'),
    ("sed", editFiles), ("cmp", compareBytes), ("diff", showDifferences), ("od", dumpFiles),
    ("base64", recode sixBitCode), ("base32", recode fiveBitCode), ("sum", printShortSums),
    ("cksum", printCyclicSums), ("md5sum", printDigests Digest.md5),
    ("sha1sum", printDigests Digest.sha1), ("sha256sum", printDigests Digest.sha256),
    ("sha224sum", printDigests Digest.sha224), ("sha384sum", printDigests Digest.sha384),
    ("sha512sum", printDigests Digest.sha512)]

def entryUtilities : List (String × (List String → Program Unit)) :=
  [("cp", copyPaths), ("mv", movePaths), ("rm", removePaths), ("unlink", removeSingle),
    ("link", linkSingle), ("ln", linkPaths), ("chmod", changeModes), ("mkdir", makePaths), ("rmdir", removeEmpties),
    ("touch", touchPaths), ("truncate", resizePaths), ("mktemp", makeFresh),
    ("install", installPaths), ("ls", listPaths), ("stat", printDetails), ("du", printSizes)]

def silentUtilities : List (String × (List String → Program Unit)) :=
  [("true", fun _ => return ()), ("false", fun _ => Program.setStatus 1),
    ("sync", fun _ => return ()), ("test", test), ("[", testBracket), ("sleep", waitFor)]

def startingUtilities : List (String × Utility) :=
  [("env", startWithSettings), ("xargs", startWithWords), ("timeout", startLimited),
    ("nice", startNicely), ("nohup", startKept), ("setsid", startApart),
    ("stdbuf", startBuffered), ("find", searchPaths), ("awk", Records.runOnRecords),
    ("mawk", Records.runOnRecords), ("nawk", Records.runOnRecords)]

def utilities : List (String × Utility) :=
  (printingUtilities ++ contentUtilities ++ entryUtilities ++ silentUtilities).map
    (fun (name, run) => (name, fun _ => run)) ++ startingUtilities

end FlashImage.Shell
