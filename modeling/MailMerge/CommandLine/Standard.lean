import MailMerge.CommandLine.Run
import MailMerge.Options.ArgumentReader
import MailMerge.Shell.Host
import MailMerge.Standard
import MailMerge.Yaml.Document

/-! What the programs take from outside, all of it from this library. -/

namespace MailMerge.CommandLine

def Environment.standard : Environment where
  platform := .standard Shell.host
  parser := ArgumentReader.read
  yaml := .standard

end MailMerge.CommandLine
