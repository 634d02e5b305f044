import RpcEndpoint.Process.Program.Blocks
import RpcEndpoint.Process.Program.Characters
import RpcEndpoint.Process.Program.Columns
import RpcEndpoint.Process.Program.Copying
import RpcEndpoint.Process.Program.Count
import RpcEndpoint.Process.Program.Digests
import RpcEndpoint.Process.Program.Dump
import RpcEndpoint.Process.Program.Editor.Program
import RpcEndpoint.Process.Program.Encoding
import RpcEndpoint.Process.Program.Environment
import RpcEndpoint.Process.Program.Evaluate
import RpcEndpoint.Process.Program.Fields
import RpcEndpoint.Process.Program.Files
import RpcEndpoint.Process.Program.Folding
import RpcEndpoint.Process.Program.Numbering
import RpcEndpoint.Process.Program.Pairing
import RpcEndpoint.Process.Program.Parts
import RpcEndpoint.Process.Program.Runs
import RpcEndpoint.Process.Program.Search
import RpcEndpoint.Process.Program.Sequence
import RpcEndpoint.Process.Program.Simple
import RpcEndpoint.Process.Program.Sort
import RpcEndpoint.Process.Shell.Program

/-!
# The table of programs
-/

namespace RpcEndpoint.Program

/-- The programs by their names. One that nothing is known about does nothing. -/
def ofName (name : String) : Program :=
  match name with
  | "[" | "test" => test
  | "b2sum" => Digests.program (Digests.blake2b 64)
  | "base32" => Encoding.program Encoding.fiveBit
  | "base64" => Encoding.program Encoding.sixBit
  | "basename" => basename
  | "bash" | "dash" | "sh" => Shell.program
  | "cat" => cat
  | "chmod" => chmod
  | "cksum" => Digests.cksum
  | "cp" => cp
  | "comm" => Columns.comm
  | "cut" => Fields.program
  | "dd" => Blocks.program
  | "dirname" => dirname
  | "echo" => echo
  | "env" => env
  | "expr" => expr
  | "false" => ends 1
  | "egrep" => Search.programWith "-E"
  | "fgrep" => Search.programWith "-F"
  | "expand" => Folding.expand
  | "fold" => Folding.fold
  | "grep" => Search.program
  | "head" => head
  | "ln" => ln
  | "ls" => ls
  | "md5sum" => Digests.program Digests.md5
  | "mkdir" => mkdir
  | "mv" => mv
  | "nl" => Numbering.program
  | "nice" => nice
  | "nohup" => nohup
  | "od" => Dump.program
  | "join" => Pairing.program
  | "paste" => Columns.paste
  | "printenv" => printenv
  | "printf" => printf
  | "pwd" => pwd
  | "rev" => rev
  | "rm" => rm
  | "rmdir" => rmdir
  | "sed" => Editor.program
  | "seq" => seq
  | "sha1sum" => Digests.program Digests.sha1
  | "sha224sum" => Digests.program Digests.sha224
  | "sha256sum" => Digests.program Digests.sha256
  | "sha384sum" => Digests.program Digests.sha384
  | "sha512sum" => Digests.program Digests.sha512
  | "sleep" => sleep
  | "sort" => Sort.program
  | "stdbuf" => stdbuf
  | "sum" => Digests.sum
  | "tac" => tac
  | "tail" => tail
  | "tee" => tee
  | "timeout" => timeout
  | "touch" => touch
  | "tr" => Characters.program
  | "unexpand" => Folding.unexpand
  | "uniq" => Runs.program
  | "uname" => uname
  | "wc" => wc
  | "which" => which
  | "whoami" => whoami
  | "xargs" => xargs
  | "yes" => yes
  | "basenc" | "fmt" | "gzip" | "pr" | "ptx" | "shuf" | "split" | "tsort" => absorb
  | _ => ends 0

end RpcEndpoint.Program
