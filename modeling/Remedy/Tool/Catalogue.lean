import Remedy.Tool.Blocks
import Remedy.Tool.Characters
import Remedy.Tool.Checksums
import Remedy.Tool.Columns
import Remedy.Tool.Comparing.Files
import Remedy.Tool.Transfer
import Remedy.Tool.Counting
import Remedy.Tool.Dump
import Remedy.Tool.Editing.Run
import Remedy.Tool.Facts
import Remedy.Tool.Finding.Walk
import Remedy.Tool.Lines
import Remedy.Tool.Linking
import Remedy.Tool.Listing.Directory
import Remedy.Tool.Numbers
import Remedy.Tool.Pairs
import Remedy.Tool.Permissions
import Remedy.Tool.Precedence
import Remedy.Tool.Records.Run
import Remedy.Tool.Removing
import Remedy.Tool.Repeats
import Remedy.Tool.Running
import Remedy.Tool.Search
import Remedy.Tool.Shuffling
import Remedy.Tool.Sorting
import Remedy.Tool.Splitting
import Remedy.Tool.Stamping
import Remedy.Tool.Surroundings
import Remedy.Tool.Usage
import Remedy.Tool.Widths
import Remedy.Tool.Words

namespace Remedy.Tool

def catalogue : List (String × (List String → Tool Unit)) :=
  Words.catalogue ++ Lines.catalogue ++ Ends.catalogue ++ Counting.catalogue ++
    Columns.catalogue ++ Widths.catalogue ++ Splitting.catalogue ++ Entries.catalogue ++
    Stamping.catalogue ++ Removing.catalogue ++ Linking.catalogue ++ Permissions.catalogue ++
    Transfer.catalogue ++ Listing.catalogue ++ Facts.catalogue ++ Sorting.catalogue ++
    Repeats.catalogue ++ Pairs.catalogue ++ Shuffling.catalogue ++
    Characters.catalogue ++ Search.catalogue ++ Editing.catalogue ++ Comparing.catalogue ++
    Finding.catalogue ++ Numbers.catalogue ++ Checksums.catalogue ++ Running.catalogue ++
    Surroundings.catalogue ++ Records.catalogue ++ Blocks.catalogue ++ Precedence.catalogue ++
    Dump.catalogue ++ Usage.catalogue

end Remedy.Tool
