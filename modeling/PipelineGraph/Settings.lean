import PipelineGraph.Clipboard
import PipelineGraph.Drag
import PipelineGraph.Marquee

namespace PipelineGraph

structure Settings where
  pasteOffset : Point := Clipboard.defaultOffset
  nodeHeight : Float32 := Marquee.defaultNodeHeight
  dragThreshold : Float32 := Drag.defaultThreshold
  startName : String := "Start"
  startPosition : Point := Node.defaultStartPosition
  startWidth : Float32 := Node.defaultStartWidth
  functionWidth : Float32 := Node.defaultFunctionWidth
deriving BEq

end PipelineGraph
